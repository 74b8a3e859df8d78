/-!
# Decimal Digits

Natural numbers written in decimal digits, and read back.

Dates pad their fields to a fixed width, floating numbers print the fewest
digits that identify them, decimals keep the digits they were given. All of
them write naturals with `Digits.write` and read digit strings with
`Digits.read`, so the only facts about digits that the rest of the library
needs are stated here.

## Main definitions

* `Digits.write`: The digits of a natural number.
* `Digits.count`: How many they are.
* `Digits.padded`: The same, filled with zeros on the left.
* `Digits.read`: The number that a list of digits stands for.
* `Digits.value?`: The number a text stands for, if it holds digits only.
-/

namespace Attest

namespace Digits

/-- Whether a character is one of the ten decimal digits. -/
def isDigit (c : Char) : Bool :=
  '0' ≤ c && c ≤ '9'

/-- What one digit is worth. -/
def worth (c : Char) : Nat :=
  c.toNat - '0'.toNat

/-- The decimal digits of a natural number, without leading zeros. -/
def write (n : Nat) : List Char :=
  Nat.toDigits 10 n

/-- How many decimal digits a natural number has; zero has one. -/
def count (n : Nat) : Nat :=
  (write n).length

/-- The decimal digits of a natural number, filled up with zeros on the left to
    at least `width` characters. -/
def padded (width n : Nat) : List Char :=
  List.replicate (width - (write n).length) '0' ++ write n

/-- The number that a list of digits stands for, most significant first. -/
def read (ds : List Char) : Nat :=
  ds.foldl (fun n c => 10 * n + worth c) 0

/-- The number that a list of characters stands for, if it is not empty and
    holds digits only. -/
def value? (cs : List Char) : Option Nat :=
  if cs ≠ [] ∧ cs.all isDigit then some (read cs) else none

/-- Read exactly `n` digits off the front: their number and what follows. -/
def take? (n : Nat) (cs : List Char) : Option (Nat × List Char) :=
  let ds := cs.take n
  if ds.length = n ∧ ds.all isDigit then some (read ds, cs.drop n) else none

/-- The leading digits of a list, and what follows them. -/
def span (cs : List Char) : List Char × List Char :=
  (cs.takeWhile isDigit, cs.dropWhile isDigit)

/-- An integer in decimal digits, with a minus sign in front if it is negative. -/
def ofInt : Int → List Char
  | .ofNat n => write n
  | .negSucc n => '-' :: write (n + 1)

end Digits

end Attest
