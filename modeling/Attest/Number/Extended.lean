/-!
# Extended Rationals

What a number is worth, whatever format holds it.

Integers, fractions, decimals and binary floating numbers are compared with each
other exactly: an integer of sixty digits next to a float of seventeen is
decided by the two values, not by converting one into the format of the other.
Every numeric format therefore maps into one type, a rational, one of two
infinities, or the value of something that is not a number. Equality and order
are defined here once, and a comparison across formats cannot round.

## Main definitions

* `Extended`: A rational, an infinity, or not a number.
* `Extended.beq`: Equality of worth; not a number equals nothing.
* `Extended.blt`: Strict order of worth; not a number is never ordered.
-/

namespace Attest

/-- The exact worth of a number. -/
inductive Extended where
  /-- An exact rational. -/
  | finite (q : Rat)
  /-- An infinity, positive or negative. -/
  | infinite (negative : Bool)
  /-- Not a number. -/
  | nan
deriving DecidableEq, Inhabited

namespace Extended

/-- Equality of worth. Not a number is not even equal to itself. -/
def beq : Extended → Extended → Bool
  | finite p, finite q => p = q
  | infinite m, infinite n => m = n
  | _, _ => false

/-- Strict order of worth. Not a number is neither below nor above anything. -/
def blt : Extended → Extended → Bool
  | finite p, finite q => p < q
  | finite _, infinite negative => !negative
  | infinite negative, finite _ => negative
  | infinite m, infinite n => m && !n
  | _, nan => false
  | nan, _ => false

/-- Whether the number is zero. -/
def isZero : Extended → Bool
  | finite q => q = 0
  | _ => false

/-- Whether the number is not a number. -/
def isNaN : Extended → Bool
  | nan => true
  | _ => false

/-- An integer is worth itself. -/
def ofInt (n : Int) : Extended :=
  finite n

/-- Nothing equals what is not a number. -/
@[simp] theorem beq_nan (x : Extended) : x.beq nan = false := by
  cases x <;> rfl

/-- What is not a number equals nothing. -/
@[simp] theorem nan_beq (x : Extended) : nan.beq x = false := by
  cases x <;> rfl

/-- Two worths are equal exactly if they are one worth and that is a number. -/
theorem beq_eq_true_iff (x y : Extended) : x.beq y = true ↔ x = y ∧ x ≠ nan := by
  cases x <;> cases y <;> simp [beq]

end Extended

end Attest
