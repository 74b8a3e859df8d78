import Attest.Proofs.Outcome

/-!
# Costs

How many events of a kind a computation leaves.

A call that can be observed leaves an event, so what is called how often can be read off
the trace. A kind is any test on events: all evaluations of providers, or those of one by
its name. Costs add up along a sequence until something is raised, and what only looks at
a value or hands something to the factory is free.

## Main definitions

* `Check.cost`: How many events of a kind a computation leaves.

## Theorems

* `cost_bind`: What a sequence costs.
* `cost_bind_le`: A bound on it that does not depend on what the first part gives.
* `cost_bind_of_free`: What it costs if the second part is free.
* `cost_fail`, `cost_failText`: A failure costs what its message costs.
-/

namespace Attest

namespace Check

variable {α β : Type} (factory : ErrorFactory) (kind : Event → Bool)

/-- How many events of a kind a computation leaves. -/
def cost (x : Check α) : Nat :=
  (x factory).trace.countP kind

theorem cost_pure (a : α) : (pure a : Check α).cost factory kind = 0 :=
  rfl

theorem cost_raise (raised : Raised) : (raise raised : Check α).cost factory kind = 0 :=
  rfl

/-- A sequence costs what its parts cost, of which the second one is free if it is not reached. -/
theorem cost_bind (x : Check α) (f : α → Check β) :
    (x >>= f).cost factory kind = x.cost factory kind +
      match (x factory).result with
      | .ok a => (f a).cost factory kind
      | .error _ => 0 := by
  unfold cost
  rcases hx : x factory with ⟨trace, raised | a⟩
  · rw [bind_apply_error hx]
    rfl
  · rw [bind_apply_ok hx, List.countP_append]

theorem cost_bind_le {x : Check α} {f : α → Check β} {n : Nat}
    (h : ∀ a, (f a).cost factory kind ≤ n) :
    (x >>= f).cost factory kind ≤ x.cost factory kind + n := by
  rw [cost_bind]
  rcases (x factory).result with raised | a
  · exact Nat.le_add_right _ n
  · exact Nat.add_le_add_left (h a) _

theorem cost_ofExcept (x : Except Fault α) : (ofExcept x).cost factory kind = 0 := by
  cases x <;> rfl

/-- A sequence costs what its first part costs, if the second one is free. -/
theorem cost_bind_of_free {x : Check α} {f : α → Check β}
    (h : ∀ a, (f a).cost factory kind = 0) :
    (x >>= f).cost factory kind = x.cost factory kind := by
  rw [cost_bind]
  rcases (x factory).result with raised | a
  · rfl
  · simp only [h a, Nat.add_zero]

theorem cost_bind_pure (x : Check α) (f : α → β) :
    (x >>= fun a => pure (f a)).cost factory kind = x.cost factory kind :=
  cost_bind_of_free factory kind fun _ => rfl

theorem cost_bind_ofExcept (x : Check α) (f : α → Except Fault β) :
    (x >>= fun a => ofExcept (f a)).cost factory kind = x.cost factory kind :=
  cost_bind_of_free factory kind fun a => cost_ofExcept factory kind (f a)

theorem cost_ofExcept_bind_pure (x : Except Fault α) (f : α → β) :
    (ofExcept x >>= fun a => pure (f a)).cost factory kind = 0 := by
  rw [cost_bind_pure, cost_ofExcept]

/-- A failure costs what its message costs. -/
theorem cost_fail (error : Check Value) (extra : List Value) :
    (fail error extra : Check α).cost factory kind = error.cost factory kind := by
  unfold fail
  rw [cost_bind]
  rcases (error factory).result with raised | v
  · rfl
  · cases v <;> rfl

theorem cost_failText (message : Check String) :
    (failText message : Check α).cost factory kind = message.cost factory kind := by
  unfold failText
  rw [cost_fail, cost_bind_pure]

end Check

end Attest
