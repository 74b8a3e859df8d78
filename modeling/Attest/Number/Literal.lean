import Attest.Number.Digits

/-!
# Decimal Literals

Unsigned decimals as they are typed: digits with at most one point, and perhaps
an exponent.

A literal is read into its digits, taken as one natural number, and the power of
ten that they are multiplied by. Nothing is rounded here: a floating number
rounds what it reads, a decimal keeps it.

## Main definitions

* `Literal.read?`: The digits and the power of ten of a literal.
* `Literal.signed`: A sign split off the front of a text.
-/

namespace Attest

namespace Literal

/-- The exponent part of a literal: nothing, or `e` with a signed integer. -/
def exponent? : List Char → Option Int
  | [] => some 0
  | e :: rest =>
    if e = 'e' ∨ e = 'E' then
      match rest with
      | '-' :: ds => (Digits.value? ds).map fun n => -(n : Int)
      | '+' :: ds => (Digits.value? ds).map fun n => (n : Int)
      | ds => (Digits.value? ds).map fun n => (n : Int)
    else none

/-- The digits of an unsigned literal as one number, and the power of ten they
    are multiplied by. There is a digit before the point or behind it. -/
def read? (cs : List Char) : Option (Nat × Int) :=
  let (whole, rest) := Digits.span cs
  let (fraction, rest) := match rest with
    | '.' :: more => Digits.span more
    | _ => ([], rest)
  if whole = [] ∧ fraction = [] then none
  else (exponent? rest).map fun e => (Digits.read (whole ++ fraction), e - fraction.length)

/-- Split a sign off the front: whether it is a minus sign, and what follows. -/
def signed : List Char → Bool × List Char
  | '-' :: cs => (true, cs)
  | '+' :: cs => (false, cs)
  | cs => (false, cs)

end Literal

end Attest
