import Attest.Number.Extended
import Attest.Number.Literal

/-!
# Binary Floating Numbers

The numbers of the 64-bit binary format, held by what they mean.

A finite number is `m · 2 ^ q` with a sign, where `m` has at most 53 binary
digits and `q` is at least `-1074`. Many pairs name one number, so a number
keeps the canonical pair: either `m` has exactly 53 digits, or `q` is the
smallest exponent there is. The condition is part of the type. Two numbers of
the type are then the same exactly if they have the same bits, zero with its
two signs included, and no property of machine arithmetic is needed anywhere.

Reading a decimal rounds once, to the nearest number of the format, and to the
even one of two that are equally near. The rounding is done on naturals.

## Main definitions

* `Binary64`: A number of the format.
* `Binary64.worth`: Its exact value.
* `Binary64.ofRatio`: The nearest number to a quotient of naturals.
* `Binary64.ofText?`: The number that a text denotes.
-/

namespace Attest

/-- The canonical pairs of significand and exponent. -/
def Canonical64 (m : Nat) (q : Int) : Prop :=
  m < Nat.pow 2 53 ∧ -1074 ≤ q ∧ q ≤ 971 ∧ (Nat.pow 2 52 ≤ m ∨ q = -1074)

instance (m : Nat) (q : Int) : Decidable (Canonical64 m q) := by
  unfold Canonical64
  infer_instance

/-- A number of the 64-bit binary format. -/
inductive Binary64 where
  /-- The number `m · 2 ^ q`, or its negative. -/
  | finite (negative : Bool) (m : Nat) (q : Int) (canonical : Canonical64 m q)
  /-- An infinity. -/
  | infinite (negative : Bool)
  /-- Not a number. -/
  | nan
deriving DecidableEq

namespace Binary64

/-- The zero of the given sign. -/
def zero (negative : Bool) : Binary64 :=
  finite negative 0 (-1074) (by decide)

instance : Inhabited Binary64 :=
  ⟨zero false⟩

/-- The exact value of `m · 2 ^ q`. -/
def scaled (m : Nat) (q : Int) : Rat :=
  if 0 ≤ q then ((m * Nat.pow 2 q.toNat : Nat) : Rat) else (m : Rat) / (Nat.pow 2 (-q).toNat : Rat)

/-- The exact value of a number of the format. -/
def worth : Binary64 → Extended
  | finite negative m q _ => .finite (if negative then -scaled m q else scaled m q)
  | infinite negative => .infinite negative
  | nan => .nan

/-- The number with significand `m` and exponent `q`. A significand that
    rounding has carried to the next power of two moves into the exponent, and
    a number beyond the largest exponent is infinite. -/
def ofPair (negative : Bool) (m : Nat) (q : Int) : Binary64 :=
  let pair := if m = Nat.pow 2 53 then (Nat.pow 2 52, q + 1) else (m, q)
  if h : Canonical64 pair.1 pair.2 then finite negative pair.1 pair.2 h else infinite negative

/-- The quotient of two naturals to the nearest natural; a half goes to the even
    neighbour. -/
def nearest (n d : Nat) : Nat :=
  let floor := n / d
  let twice := 2 * (n % d)
  if twice < d then floor
  else if d < twice then floor + 1
  else if floor % 2 = 0 then floor else floor + 1

/-- The quotient `n / d` divided by `2 ^ q`, as a pair of naturals. -/
def shifted (n d : Nat) (q : Int) : Nat × Nat :=
  if 0 ≤ q then (n, d * Nat.pow 2 q.toNat) else (n * Nat.pow 2 (-q).toNat, d)

/-- The exponent at which `n / d` has 53 binary digits before the point, or the
    smallest exponent if that is larger. The logarithms pin the exponent down to
    one of two, and the comparison decides between them. -/
def exponentOf (n d : Nat) : Int :=
  let low : Int := (n.log2 : Int) - (d.log2 : Int) - 53
  let (num, den) := shifted n d low
  max (-1074) (if Nat.pow 2 53 ≤ num / den then low + 1 else low)

/-- The number of the format nearest to `n / d`, with the given sign. -/
def ofRatio (negative : Bool) (n d : Nat) : Binary64 :=
  if n = 0 ∨ d = 0 then zero negative
  else
    let q := exponentOf n d
    let (num, den) := shifted n d q
    ofPair negative (nearest num den) q

/-- The number of the format nearest to a rational. -/
def ofRat (r : Rat) : Binary64 :=
  ofRatio (r < 0) r.num.natAbs r.den

/-- The number of the format nearest to an integer. -/
def ofInt (n : Int) : Binary64 :=
  ofRat n

/-- Whether the number is infinite. -/
def isInfinite : Binary64 → Bool
  | infinite _ => true
  | _ => false

/-- The number nearest to `digits · 10 ^ exponent`. An exponent far outside the
    format's range is decided without raising ten to it. -/
def ofScientific (negative : Bool) (digits : Nat) (exponent : Int) : Binary64 :=
  let size : Int := exponent + (Digits.write digits).length
  if digits = 0 ∨ size < -400 then zero negative
  else if 400 < size then infinite negative
  else if 0 ≤ exponent then ofRatio negative (digits * Nat.pow 10 exponent.toNat) 1
  else ofRatio negative digits (Nat.pow 10 (-exponent).toNat)

/-- The unsigned number that a text denotes: a decimal literal, or the name of an
    infinity or of what is not a number, in any letter case. -/
def unsigned? (negative : Bool) (cs : List Char) : Option Binary64 :=
  let name := String.ofList (cs.map Char.toLower)
  if name = "inf" ∨ name = "infinity" then some (infinite negative)
  else if name = "nan" then some nan
  else (Literal.read? cs).map fun (digits, exponent) => ofScientific negative digits exponent

/-- The number that a text denotes, if it denotes one. -/
def ofText? (s : String) : Option Binary64 :=
  let (negative, cs) := Literal.signed s.toList
  unsigned? negative cs

end Binary64

end Attest
