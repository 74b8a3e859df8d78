import Attest.Text.Unprintable

/-!
# Quoted Text

Text between quotes, as it stands inside a written container.

The quote is the single one, unless the text holds single quotes and no double
ones. The quote itself and the backslash are escaped by a backslash; tab, line
feed and carriage return have names; every other character without a visible
form is written as its code point in two, four or eight hexadecimal digits.
Byte strings follow the same rule, with every byte outside of visible ASCII as
two hexadecimal digits.

## Main definitions

* `quoted`: A text between quotes.
* `quotedPoints`: The same for code points of which some are no characters.
* `quotedBytes`: A byte string between quotes.
-/

namespace Attest

namespace Text

/-- The single quote. -/
def singleQuote : Char := '\x27'

/-- The double quote. -/
def doubleQuote : Char := '\x22'

/-- A natural number in hexadecimal digits, filled up with zeros to `width`. -/
def hexDigits (width n : Nat) : List Char :=
  let ds := Nat.toDigits 16 n
  List.replicate (width - ds.length) '0' ++ ds

/-- The escape of a code point that has no visible form. -/
def codeEscape (n : Nat) : List Char :=
  if n ≤ 0xff then '\\' :: 'x' :: hexDigits 2 n
  else if n ≤ 0xffff then '\\' :: 'u' :: hexDigits 4 n
  else '\\' :: 'U' :: hexDigits 8 n

/-- One character between the given quotes. -/
def escaped (quote c : Char) : List Char :=
  if c = quote ∨ c = '\\' then ['\\', c]
  else if c = '\t' then ['\\', 't']
  else if c = '\n' then ['\\', 'n']
  else if c = '\r' then ['\\', 'r']
  else if ' ' ≤ c ∧ c ≤ '~' then [c]
  else if isPrintable c then [c]
  else codeEscape c.toNat

/-- The quote that a text is written between. -/
def quoteFor (cs : List Char) : Char :=
  if cs.contains singleQuote && !cs.contains doubleQuote then doubleQuote else singleQuote

/-- A text between quotes. -/
def quoted (s : String) : String :=
  let q := quoteFor s.toList
  String.ofList (q :: (s.toList.flatMap (escaped q) ++ [q]))

/-- One code point between the given quotes. A surrogate has no visible form. -/
def escapedPoint (quote : Char) (n : Nat) : List Char :=
  if n.isValidChar then escaped quote (Char.ofNat n) else codeEscape n

/-- A text between quotes, by its code points. -/
def quotedPoints (points : List Nat) : String :=
  let q := quoteFor (points.map Char.ofNat)
  String.ofList (q :: (points.flatMap (escapedPoint q) ++ [q]))

/-- One byte between the given quotes. -/
def escapedByte (quote : Char) (b : UInt8) : List Char :=
  if b.toNat < 0x7f then
    let c := Char.ofNat b.toNat
    if c = quote ∨ ' ' ≤ c ∨ c = '\t' ∨ c = '\n' ∨ c = '\r' then escaped quote c
    else codeEscape b.toNat
  else codeEscape b.toNat

/-- A byte string between quotes, marked as bytes. -/
def quotedBytes (bs : List UInt8) : String :=
  let q := quoteFor (bs.map fun b => Char.ofNat b.toNat)
  String.ofList ('b' :: q :: (bs.flatMap (escapedByte q) ++ [q]))

end Text

end Attest
