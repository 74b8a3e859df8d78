import Attest.Number.Binary64
import Attest.Number.Scientific

/-!
# Worth of Decimals

Decimals compared with each other and with other numbers, exactly.

The exponent of a decimal may be as large as whoever typed it liked, so the power of
ten that it stands for is not computed unless a comparison needs it. Two sizes are
compared by the place of their leading digits first, and only if that is the same are
their coefficients brought to one exponent, which then differ by less than their
digits. Against a rational the lengths of numerator and denominator say where its
leading digit stands, up to one place.

Equality of decimals is equality of their normal forms, without trailing zeros.

## Main definitions

* `Scientific.beq`, `Scientific.blt`: Equality and order of two decimals.
* `Scientific.beqOf`: Equality of a decimal with an exact worth.
* `Scientific.bltOf`, `Scientific.bgtOf`: Order of a decimal and an exact worth.
* `Scientific.truncated`: A decimal without its fraction.
-/

namespace Attest

namespace Scientific

/-- A coefficient without its trailing zeros, which go into the exponent. -/
def stripped (coefficient : Nat) (exponent : Int) : Nat × Int :=
  if h : coefficient ≠ 0 ∧ coefficient % 10 = 0 then stripped (coefficient / 10) (exponent + 1)
  else (coefficient, if coefficient = 0 then 0 else exponent)
termination_by coefficient
decreasing_by exact Nat.div_lt_self (Nat.pos_of_ne_zero h.1) (by decide)

/-- The sign, coefficient and exponent that all decimals of one worth share. -/
def normal (negative : Bool) (coefficient : Nat) (exponent : Int) : Bool × Nat × Int :=
  (negative && coefficient ≠ 0, stripped coefficient exponent)

/-- Equality of worth. -/
def beq : Scientific → Scientific → Bool
  | finite s c e, finite t d f => normal s c e = normal t d f
  | infinite s, infinite t => s = t
  | _, _ => false

/-- The place in front of the leading digit: the size is below ten to this power, and
    not below ten to the power before. -/
def place (coefficient : Nat) (exponent : Int) : Int :=
  Digits.count coefficient + exponent

/-- Whether the decimal `c · 10 ^ e` is below `d · 10 ^ f`, for positive coefficients. -/
def smaller (c : Nat) (e : Int) (d : Nat) (f : Int) : Bool :=
  if place c e ≠ place d f then place c e < place d f
  else c * Nat.pow 10 (e - f).toNat < d * Nat.pow 10 (f - e).toNat

/-- Strict order of worth. What is not a number is never ordered. -/
def blt : Scientific → Scientific → Bool
  | finite s c e, finite t d f =>
    if c = 0 ∨ d = 0 then (c ≠ 0 && s) || (d ≠ 0 && !t)
    else if s ≠ t then s
    else if s then smaller d f c e else smaller c e d f
  | finite .., infinite negative => !negative
  | infinite negative, finite .. => negative
  | infinite m, infinite n => m && !n
  | _, _ => false

/-- Whether `c · 10 ^ e` is the quotient `n / d` in lowest terms, for a positive
    coefficient without trailing zeros. The denominator has at least as many binary
    digits as the decimal has places behind the point. -/
def isQuotient (c : Nat) (e : Int) (n d : Nat) : Bool :=
  if 0 ≤ e then d = 1 && (e ≤ Digits.count n && c * Nat.pow 10 e.toNat = n)
  else (-e).toNat ≤ d.log2 && c * d = n * Nat.pow 10 (-e).toNat

/-- Equality of a decimal with an exact worth. -/
def beqOf : Scientific → Extended → Bool
  | finite s c e, .finite q =>
    let (s, c, e) := normal s c e
    if c = 0 then q = 0 else s = decide (q < 0) && isQuotient c e q.num.natAbs q.den
  | infinite s, .infinite t => s = t
  | _, _ => false

/-- The order of the size `c · 10 ^ e` and the quotient `n / d`, for positive `c`, `n`
    and `d`. -/
def compareQuotient (c : Nat) (e : Int) (n d : Nat) : Ordering :=
  let leading : Int := (Digits.count n : Int) - Digits.count d
  if place c e < leading then .lt
  else if leading + 1 < place c e then .gt
  else compare (c * Nat.pow 10 e.toNat * d) (n * Nat.pow 10 (-e).toNat)

/-- The order of a finite decimal and a rational. -/
def compareRat (negative : Bool) (c : Nat) (e : Int) (q : Rat) : Ordering :=
  if c = 0 then compare 0 q.num
  else if negative then
    if q < 0 then (compareQuotient c e q.num.natAbs q.den).swap else .lt
  else if q ≤ 0 then .gt
  else compareQuotient c e q.num.natAbs q.den

/-- Whether a decimal is below an exact worth. -/
def bltOf : Scientific → Extended → Bool
  | finite s c e, .finite q => compareRat s c e q = .lt
  | finite .., .infinite negative => !negative
  | infinite negative, .finite _ => negative
  | infinite m, .infinite n => m && !n
  | _, _ => false

/-- Whether a decimal is above an exact worth. -/
def bgtOf : Scientific → Extended → Bool
  | finite s c e, .finite q => compareRat s c e q = .gt
  | finite .., .infinite negative => negative
  | infinite negative, .finite _ => !negative
  | infinite m, .infinite n => !m && n
  | _, _ => false

/-- A finite decimal without its fraction. -/
def truncated (negative : Bool) (coefficient : Nat) (exponent : Int) : Int :=
  let size : Nat :=
    if 0 ≤ exponent then (if coefficient = 0 then 0 else coefficient * Nat.pow 10 exponent.toNat)
    else if place coefficient exponent ≤ 0 then 0
    else coefficient / Nat.pow 10 (-exponent).toNat
  if negative then -(size : Int) else size

/-- How many digits the result of a division keeps. -/
def precision : Nat := 28

/-- The smallest exponent that a result may have. -/
def leastExponent : Int := -1000026

/-- A result of arithmetic: of a coefficient with more digits than are kept, and of an
    exponent that is too small, the last digits are rounded away. A half goes to the
    even neighbour. -/
def rounded (negative : Bool) (coefficient : Nat) (exponent : Int) : Scientific :=
  let excess := max (Digits.count coefficient - precision) (leastExponent - exponent).toNat
  if Digits.count coefficient < excess then finite negative 0 (exponent + excess)
  else finite negative (Binary64.nearest coefficient (Nat.pow 10 excess)) (exponent + excess)

/-- The remainder of a decimal divided by two, which takes the sign of the decimal. There
    is none for an infinity, for a signalling decimal, and if the quotient has more
    digits than are kept. -/
def remainderByTwo? : Scientific → Option Scientific
  | infinite _ => none
  | nan negative signalling payload => if signalling then none else some (nan negative false payload)
  | finite negative c e =>
    if place c e ≤ 0 ∨ c = 0 then some (rounded negative c (min e 0))
    else if precision + 1 < place c e then none
    else
      let c := c * Nat.pow 10 e.toNat
      let unit := 2 * Nat.pow 10 (-e).toNat
      if Nat.pow 10 precision ≤ c / unit then none
      else some (rounded negative (c % unit) (min e 0))

end Scientific

end Attest
