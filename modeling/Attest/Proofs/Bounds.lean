import Attest.Assertion.Run

/-!
# Bounds

Which lengths keep bounds.

A bound may be any value, and is compared with a length when there is one. Integers are
compared as integers, a least length that is not given is zero, and a largest length that
is not given is infinite, so no length is above it. `judge_integral` says that bounds of
this kind judge every length without a fault, and object to just those that they do not
admit.

A bound may also be a real number of another kind, such as an infinity. The comparison is
then one of worth, and `judge_real` says the same of bounds of this kind.

## Main definitions

* `Bounds.Admits`: A length keeps bounds.
* `Bounds.IsIntegral`: Each bound is an integer, or there is none.
* `Bounds.Spans`: A length lies between bounds that are real numbers.
* `Bounds.IsReal`: Both bounds are real numbers.

## Theorems

* `less_int`, `greater_int`: The order of integers among all values.
* `less_of_worth`, `greater_of_worth`: The order of real numbers.
* `less_lower`, `greater_upper`: What it is to be below or above a bound.
* `judge_integral`: Integral bounds find nothing wrong with the lengths that they admit.
* `judge_eq_none_iff`: What it is to find nothing wrong with a length.
* `judge_real`: Real bounds find nothing wrong with the lengths between them.
-/

namespace Attest

/-- A length keeps bounds: it is not below the least length nor above the largest one, as far
    as the bounds name one. -/
def Bounds.Admits (b : Bounds) (n : Nat) : Prop :=
  (∀ m, b.min = .int m → m ≤ n) ∧ ∀ m, b.max = .int m → n ≤ m

/-- Each bound is an integer, or there is none. -/
def Bounds.IsIntegral (b : Bounds) : Prop :=
  (b.min = .null ∨ ∃ m, b.min = .int m) ∧ (b.max = .null ∨ ∃ m, b.max = .int m)

/-- Both bounds are real numbers, once a missing one is replaced by what stands for it. -/
def Bounds.IsReal (b : Bounds) : Prop :=
  (∃ p, b.lower.worth? = some p) ∧ ∃ q, b.upper.worth? = some q

/-- A length lies between bounds that are real numbers: it is not worth less than the lower one,
    and not more than the upper one. -/
def Bounds.Spans (b : Bounds) (n : Nat) : Prop :=
  (∀ p, b.lower.worth? = some p → (Extended.ofInt n).blt p = false) ∧
    ∀ q, b.upper.worth? = some q → q.blt (.ofInt n) = false

namespace Value

variable {a b : Value} {p q : Extended}

/-- Real numbers are ordered by worth, of whatever kinds they are. -/
theorem less_of_worth (ha : a.worth? = some p) (hb : b.worth? = some q) :
    a.less b = .ok (p.blt q) := by
  cases a <;> simp only [worth?, Option.some.injEq, reduceCtorEq] at ha <;> subst ha <;>
    cases b <;> simp only [worth?, Option.some.injEq, reduceCtorEq] at hb <;> subst hb <;> rfl

theorem greater_of_worth (ha : a.worth? = some p) (hb : b.worth? = some q) :
    a.greater b = .ok (q.blt p) := by
  cases a <;> simp only [worth?, Option.some.injEq, reduceCtorEq] at ha <;> subst ha <;>
    cases b <;> simp only [worth?, Option.some.injEq, reduceCtorEq] at hb <;> subst hb <;> rfl

theorem less_int (m n : Int) : (int m).less (int n) = .ok (decide (m < n)) := by
  have h : (int m).less (int n) = .ok (Extended.blt (.ofInt m) (.ofInt n)) := rfl
  rw [h]
  simp only [Extended.blt, Extended.ofInt, Rat.intCast_lt_intCast]

theorem greater_int (m n : Int) : (int m).greater (int n) = .ok (decide (n < m)) := by
  have h : (int m).greater (int n) = .ok (Extended.blt (.ofInt n) (.ofInt m)) := rfl
  rw [h]
  simp only [Extended.blt, Extended.ofInt, Rat.intCast_lt_intCast]

end Value

namespace Bounds

/-- A length is below an integral lower bound if and only if it is below the integer; no
    length is below zero. -/
theorem less_lower {b : Bounds} (hb : b.IsIntegral) (n : Nat) :
    ∃ short : Bool, (Value.int n).less b.lower = .ok short ∧
      (short = false ↔ ∀ m, b.min = .int m → m ≤ n) := by
  rcases b with ⟨min, max⟩
  rcases hb.1 with hmin | ⟨m, hmin⟩
  · simp only at hmin
    subst hmin
    refine ⟨decide ((n : Int) < 0), Value.less_int n 0, ?_⟩
    simp only [decide_eq_false_iff_not, reduceCtorEq, false_implies, implies_true, iff_true]
    omega
  · simp only at hmin
    subst hmin
    have hlower : lower ⟨.int m, max⟩ = .int m := by
      unfold lower
      by_cases hm : m = 0
      · subst hm
        rfl
      · simp only [Value.isTruthy, hm, ne_eq, not_false_eq_true, decide_true, if_true]
    refine ⟨decide ((n : Int) < m), ?_, ?_⟩
    · rw [hlower]
      exact Value.less_int n m
    · simp only [decide_eq_false_iff_not, Value.int.injEq]
      constructor
      · intro h k hk
        omega
      · intro h
        have := h m rfl
        omega

theorem greater_upper {b : Bounds} (hb : b.IsIntegral) (n : Nat) :
    ∃ long : Bool, (Value.int n).greater b.upper = .ok long ∧
      (long = false ↔ ∀ m, b.max = .int m → n ≤ m) := by
  rcases b with ⟨min, max⟩
  rcases hb.2 with hmax | ⟨m, hmax⟩
  · simp only at hmax
    subst hmax
    refine ⟨false, rfl, ?_⟩
    simp only [reduceCtorEq, false_implies, implies_true]
  · simp only at hmax
    subst hmax
    refine ⟨decide (m < (n : Int)), Value.greater_int n m, ?_⟩
    simp only [decide_eq_false_iff_not, Value.int.injEq]
    constructor
    · intro h k hk
      omega
    · intro h
      have := h m rfl
      omega

/-- Integral bounds judge every length, and find nothing wrong with those that they admit. -/
theorem judge_integral {b : Bounds} (hb : b.IsIntegral) (n : Nat) :
    ∃ broken, b.judge n = .ok broken ∧ (broken = none ↔ b.Admits n) := by
  rcases less_lower hb n with ⟨short, hless, hshort⟩
  rcases greater_upper hb n with ⟨long, hgreater, hlong⟩
  unfold judge Admits
  rw [hless, hgreater, ← hshort, ← hlong]
  cases short <;> cases long <;> exact ⟨_, rfl, by simp⟩

/-- To find nothing wrong with a length is to have asked about both bounds and to have found the
    length neither below the one nor above the other. -/
theorem judge_eq_none_iff {b : Bounds} {n : Nat} :
    b.judge n = .ok none ↔
      (Value.int n).less b.lower = .ok false ∧ (Value.int n).greater b.upper = .ok false := by
  unfold judge
  rcases (Value.int n).less b.lower with f | short
  · simp only [bind, Except.bind, reduceCtorEq, false_and]
  · rcases (Value.int n).greater b.upper with f | long
    · cases short <;> simp [bind, Except.bind, pure, Except.pure]
    · cases short <;> cases long <;> simp [bind, Except.bind, pure, Except.pure]

/-- Real bounds find nothing wrong with the lengths that lie between them. -/
theorem judge_real {b : Bounds} (hb : b.IsReal) (n : Nat) : b.judge n = .ok none ↔ b.Spans n := by
  rcases hb with ⟨⟨p, hp⟩, q, hq⟩
  rw [judge_eq_none_iff, Value.less_of_worth rfl hp, Value.greater_of_worth rfl hq]
  unfold Spans
  simp only [hp, hq, Except.ok.injEq, Option.some.injEq, forall_eq']

end Bounds

end Attest
