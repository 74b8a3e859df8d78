import Attest.Number.Extended
import Attest.Number.Literal
import Attest.Text.Blank
import Attest.Text.DecimalDigit

/-!
# Decimals in Scientific Form

Decimal numbers that remember how they were written.

A decimal is a coefficient and a power of ten, and `1.5` and `1.50` are two
decimals of one worth: trailing zeros are significant and are written back. The
written form is plain while the exponent is not positive and the number is not
too small, and has an exponent part otherwise.

## Main definitions

* `Scientific`: A decimal with its exponent.
* `Scientific.ofText?`: The decimal a text denotes.
* `Scientific.text`: The written form of a decimal.
-/

namespace Attest

/-- A decimal number that keeps the exponent it was written with. -/
inductive Scientific where
  /-- The number `coefficient · 10 ^ exponent`, or its negative. -/
  | finite (negative : Bool) (coefficient : Nat) (exponent : Int)
  /-- An infinity. -/
  | infinite (negative : Bool)
  /-- Not a number. A signalling one refuses to be compared; the digits behind
      the name are kept. -/
  | nan (negative : Bool) (signalling : Bool) (payload : List Char)
deriving DecidableEq, Inhabited

namespace Scientific

/-- Whether the decimal is zero. -/
def isZero : Scientific → Bool
  | finite _ coefficient _ => coefficient = 0
  | _ => false

/-- Whether the decimal is not a number. -/
def isNaN : Scientific → Bool
  | nan .. => true
  | _ => false

/-- Whether the decimal is a signalling one. -/
def isSignalling : Scientific → Bool
  | nan _ signalling _ => signalling
  | _ => false

/-- The unsigned decimal that a list of characters denotes. -/
def unsigned? (negative : Bool) (cs : List Char) : Option Scientific :=
  let lower := cs.map Char.toLower
  let name := String.ofList lower
  let payload? (ds : List Char) : Option (List Char) :=
    if ds.all Digits.isDigit then some (ds.dropWhile (· = '0')) else none
  if name = "inf" ∨ name = "infinity" then some (infinite negative)
  else if "nan".toList.isPrefixOf lower then
    (payload? (cs.drop 3)).map fun ds => nan negative false ds
  else if "snan".toList.isPrefixOf lower then
    (payload? (cs.drop 4)).map fun ds => nan negative true ds
  else (Literal.read? cs).map fun (digits, exponent) => finite negative digits exponent

/-- The decimal that a text denotes, if it denotes one. Blanks around it and underscores
    anywhere mean nothing, and the digits may be those of any script. -/
def ofText? (s : String) : Option Scientific :=
  let cs := ((Text.trimmed s.toList).filter (· ≠ '_')).map Text.westernDigit
  let (negative, cs) := Literal.signed cs
  unsigned? negative cs

/-- The digits of a finite decimal with its point and exponent part. With `d`
    digits and exponent `e`, the leading digit stands at `e + d - 1`; the plain
    form is used if `e ≤ 0` and the leading digit stands at `-6` or higher. -/
def layout (ds : List Char) (exponent : Int) : List Char :=
  let leading : Int := exponent + ds.length - 1
  if exponent ≤ 0 ∧ -6 ≤ leading then
    let point : Int := exponent + ds.length
    if exponent = 0 then ds
    else if 0 < point then ds.take point.toNat ++ '.' :: ds.drop point.toNat
    else '0' :: '.' :: (List.replicate (-point).toNat '0' ++ ds)
  else
    let mantissa := match ds with
      | d :: rest@(_ :: _) => d :: '.' :: rest
      | ds => ds
    if leading = 0 then mantissa
    else mantissa ++ 'E' :: (if leading < 0 then '-' else '+') :: Digits.write leading.natAbs

/-- The written form of a decimal, which keeps its trailing zeros. -/
def text (d : Scientific) : String :=
  let (negative, body) : Bool × List Char := match d with
    | finite negative coefficient exponent => (negative, layout (Digits.write coefficient) exponent)
    | infinite negative => (negative, "Infinity".toList)
    | nan negative signalling payload =>
      (negative, (if signalling then "sNaN" else "NaN").toList ++ payload)
  String.ofList (if negative then '-' :: body else body)

end Scientific

end Attest
