import Attest.Context

/-!
# Outcomes of Sequences

What a sequence of computations ends with, and what a failure does to one.

A computation is a function of the factory, and its outcome is a pair. Most of what is said
of runs is about one half of the pair, so the laws here take the halves apart: a sequence
ends with a value exactly if both parts do, and a failure ends with no value whatever was
to follow it. A list of checks made in order passes if all of them do, and otherwise raises
what its first failing one raises.

## Main definitions

* `Check.inOrder`: Checks, one after another.

## Theorems

* `bind_ne_empty`, `ok_append_ne_empty`: Texts that are never empty.
* `ofExcept_ok_iff`: What an operation on values ends with.
* `result_bind`: The result of a sequence.
* `bind_ok_iff`, `andThen_passes_iff`: A sequence ends with a value if and only if both of its
  parts do.
* `fail_bind`, `failAt_bind`, `failUnder_bind`, `failBehind_bind`: Nothing follows a failure.
* `fail_raises`: A failure raises.
* `failText_raises`: What a failure with a text raises.
* `inOrder_passes_iff`: Checks in order pass if all of them do.
* `inOrder_raises`: Checks in order raise what the first failing one raises.
-/

namespace Attest

/-- One operation on values and then another end with a value if both of them do. -/
theorem except_bind_ok_iff {α β : Type} {x : Except Fault α} {f : α → Except Fault β} {b : β} :
    (x >>= f) = .ok b ↔ ∃ a, x = .ok a ∧ f a = .ok b := by
  rcases x with fault | a
  · exact ⟨nofun, nofun⟩
  · exact ⟨fun h => ⟨a, rfl, h⟩, fun ⟨_, ha, h⟩ => Except.ok.inj ha ▸ h⟩

/-- What is written behind something else is not empty if what comes of it never is. -/
theorem bind_ne_empty {α : Type} {x : Except Fault α} {f : α → Except Fault String}
    (h : ∀ a, f a ≠ .ok "") : (x >>= f) ≠ .ok "" := by
  intro hempty
  rcases except_bind_ok_iff.mp hempty with ⟨a, _, ha⟩
  exact h a ha

/-- A text that begins with something is not empty. -/
theorem ok_append_ne_empty {front : String} (h : front ≠ "") (back : String) :
    (.ok (front ++ back) : Except Fault String) ≠ .ok "" :=
  fun hempty => h (String.append_eq_empty_iff.mp (Except.ok.inj hempty)).1

namespace Check

@[simp] theorem ofExcept_ok {α : Type} (a : α) : ofExcept (.ok a) = pure a :=
  rfl

@[simp] theorem ofExcept_error {α : Type} (f : Fault) :
    (ofExcept (.error f) : Check α) = raise (.fault f) :=
  rfl

@[simp] theorem raise_bind {α β : Type} (r : Raised) (f : α → Check β) :
    ((raise r : Check α) >>= f) = raise r :=
  rfl

theorem ofExcept_bind {α β : Type} (x : Except Fault α) (f : α → Except Fault β) :
    ofExcept (x >>= f) = (ofExcept x >>= fun a => ofExcept (f a)) := by
  cases x <;> rfl

theorem ofExcept_pure {α : Type} (a : α) : (ofExcept (pure a) : Check α) = pure a :=
  rfl

theorem ofExcept_ok_iff {α : Type} {x : Except Fault α} {a : α} {factory : ErrorFactory} :
    (ofExcept x factory).result = .ok a ↔ x = .ok a := by
  rcases x with f | b
  · simp only [ofExcept_error, raise, reduceCtorEq]
  · simp only [ofExcept_ok, pure_apply, Except.ok.injEq]

/-- The result of a sequence is that of its second part, if the first one ends with a value. -/
theorem result_bind {α β : Type} (x : Check α) (f : α → Check β) (factory : ErrorFactory) :
    ((x >>= f) factory).result =
      match (x factory).result with
      | .ok a => (f a factory).result
      | .error r => .error r := by
  rcases hx : x factory with ⟨trace, r | a⟩
  · rw [bind_apply_error hx]
  · rw [bind_apply_ok hx]

theorem bind_ok_iff {α β : Type} {x : Check α} {f : α → Check β} {factory : ErrorFactory} {b : β} :
    ((x >>= f) factory).result = .ok b ↔
      ∃ a, (x factory).result = .ok a ∧ (f a factory).result = .ok b := by
  rw [result_bind]
  rcases (x factory).result with r | a
  · simp only [reduceCtorEq, false_and, exists_false]
  · simp only [Except.ok.injEq, exists_eq_left']

/-- One check and then another pass if both of them do. -/
theorem andThen_passes_iff {x y : Check Unit} {factory : ErrorFactory} :
    ((x >>= fun _ => y) factory).result = .ok () ↔
      (x factory).result = .ok () ∧ (y factory).result = .ok () := by
  rw [bind_ok_iff]
  exact ⟨fun ⟨_, hx, hy⟩ => ⟨hx, hy⟩, fun ⟨hx, hy⟩ => ⟨(), hx, hy⟩⟩

@[simp] theorem fail_bind {α β : Type} (error : Check Value) (extra : List Value)
    (f : α → Check β) :
    ((fail error extra : Check α) >>= f) = fail error extra := by
  unfold fail
  rw [bind_assoc]
  congr 1
  funext v
  cases v <;> rfl

/-- A failure raises: what its evaluation raises, or what is made of what the evaluation gives. -/
theorem fail_raises {α : Type} (error : Check Value) (extra : List Value) (factory : ErrorFactory) :
    ∃ raised, ((fail error extra : Check α) factory).result = .error raised := by
  unfold fail
  rw [result_bind]
  rcases (error factory).result with r | v
  · exact ⟨r, rfl⟩
  · cases v <;> exact ⟨_, rfl⟩

theorem fail_ne_ok {α : Type} (error : Check Value) (extra : List Value) (factory : ErrorFactory)
    (a : α) : ((fail error extra : Check α) factory).result ≠ .ok a := by
  rcases fail_raises (α := α) error extra factory with ⟨raised, h⟩
  rw [h]
  simp only [ne_eq, reduceCtorEq, not_false_eq_true]

/-- A failure with a text that is not empty raises what the factory makes of it, unless the text
    cannot be had. -/
theorem failText_raises {α : Type} {message : Check String} {factory : ErrorFactory}
    (h : ∀ s, (message factory).result = .ok s → s ≠ "") :
    ((failText message : Check α) factory).result =
      match (message factory).result with
      | .ok s => .error (factory (.text s) [])
      | .error raised => .error raised := by
  unfold failText fail
  rw [bind_assoc, result_bind]
  rcases hs : (message factory).result with raised | s
  · rfl
  · have htruthy : (Value.text s).isTruthy = true := decide_eq_true (h s hs)
    simp only [pure_bind, violation, htruthy, if_true]

/-- Checks, one after another. -/
def inOrder : List (Check Unit) → Check Unit
  | [] => pure ()
  | x :: xs => x >>= fun _ => inOrder xs

theorem inOrder_passes_iff {xs : List (Check Unit)} {factory : ErrorFactory} :
    (inOrder xs factory).result = .ok () ↔ ∀ x ∈ xs, (x factory).result = .ok () := by
  induction xs with
  | nil => exact ⟨fun _ x hx => absurd hx List.not_mem_nil, fun _ => rfl⟩
  | cons x xs ih =>
      rw [inOrder, andThen_passes_iff, ih, List.forall_mem_cons]

theorem inOrder_raises {xs : List (Check Unit)} {factory : ErrorFactory} {k : Nat} {x : Check Unit}
    {raised : Raised} (hx : xs[k]? = some x) (hraised : (x factory).result = .error raised)
    (hfront : ∀ j < k, ∀ y, xs[j]? = some y → (y factory).result = .ok ()) :
    (inOrder xs factory).result = .error raised := by
  induction xs generalizing k with
  | nil => exact absurd hx (by simp only [List.getElem?_nil, reduceCtorEq, not_false_eq_true])
  | cons y xs ih =>
      rw [inOrder, result_bind]
      cases k with
      | zero =>
          rw [List.getElem?_cons_zero, Option.some.injEq] at hx
          rw [hx, hraised]
      | succ k =>
          rw [hfront 0 (Nat.succ_pos k) y List.getElem?_cons_zero]
          rw [List.getElem?_cons_succ] at hx
          refine ih hx fun j hj z hz => hfront (j + 1) (Nat.succ_lt_succ hj) z ?_
          rw [List.getElem?_cons_succ]
          exact hz

end Check

namespace Context

variable {α β : Type} (c : Context) (message : Except Fault String)

@[simp] theorem failAt_bind (f : α → Check β) :
    ((c.failAt message : Check α) >>= f) = c.failAt message :=
  Check.fail_bind _ _ f

@[simp] theorem failUnder_bind (f : α → Check β) :
    ((c.failUnder message : Check α) >>= f) = c.failUnder message :=
  Check.fail_bind _ _ f

@[simp] theorem failBehind_bind (f : α → Check β) :
    ((c.failBehind message : Check α) >>= f) = c.failBehind message :=
  Check.fail_bind _ _ f

end Context

end Attest
