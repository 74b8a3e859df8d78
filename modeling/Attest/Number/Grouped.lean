import Attest.Number.Binary64
import Attest.Text.Blank
import Attest.Text.DecimalDigit

/-!
# Numbers as They Are Typed

Numerals in the form in which people type them, with more freedom than a literal has:
blanks around the number, digits of any script, and underscores that keep long numbers
readable. An underscore stands between two digits and nowhere else.

An integer may be typed in any base from 2 to 36. The bases 2, 8 and 16 allow a mark
in front of the digits, and base 0 stands for the base that the mark names, or for
ten without one. A numeral of more than 4300 digits is refused, because converting it
takes too long, except in bases that are powers of two. The length is looked at before
what follows the digits, so it is the fault that is reported if both are wrong.

## Main definitions

* `Grouped.Refusal`: Why a numeral is refused.
* `Grouped.integer`: The integer that a numeral denotes in a base.
* `Grouped.floating?`: The floating number that a numeral denotes.
-/

namespace Attest

namespace Grouped

/-- Why a numeral is refused. -/
inductive Refusal where
  /-- It is not a numeral of the base. -/
  | malformed
  /-- It has this many digits, which are too many. -/
  | tooLong (digits : Nat)
deriving DecidableEq

/-- How many decimal digits of an integer are converted, in either direction. -/
def mostDigits : Nat := 4300

/-- The characters of a numeral: blanks around it are removed, and digits of other
    scripts are written as western ones. -/
def characters (cs : List Char) : List Char :=
  (Text.trimmed cs).map Text.westernDigit

/-- Characters without the underscores between digits. `afterDigit` says whether a
    digit stands in front of them. -/
def ungrouped (isDigit : Char → Bool) (afterDigit : Bool) : List Char → Option (List Char)
  | [] => some []
  | c :: cs =>
    if c = '_' then
      if afterDigit && cs.head?.any isDigit then ungrouped isDigit false cs else none
    else (ungrouped isDigit (isDigit c) cs).map (c :: ·)

/-- What a digit is worth: letters in either case continue behind `9`. -/
def worth (c : Char) : Nat :=
  if Digits.isDigit c then Digits.worth c
  else if 'a' ≤ c ∧ c ≤ 'z' then c.toNat - 'a'.toNat + 10
  else if 'A' ≤ c ∧ c ≤ 'Z' then c.toNat - 'A'.toNat + 10
  else 36

/-- The base that a mark in front of the digits names. -/
def marked : List Char → Option Nat
  | '0' :: c :: _ =>
    if c = 'x' ∨ c = 'X' then some 16
    else if c = 'o' ∨ c = 'O' then some 8
    else if c = 'b' ∨ c = 'B' then some 2
    else none
  | _ => none

/-- The characters without the mark of their base, and without one underscore that
    may follow it. -/
def withoutMark (base : Nat) (cs : List Char) : List Char :=
  if marked cs = some base then
    match cs.drop 2 with
    | '_' :: rest => rest
    | rest => rest
  else cs

/-- Whether numerals of a base are limited in length. -/
def isLimited (base : Nat) : Bool :=
  !([2, 4, 8, 16, 32].contains base)

/-- The natural number that unsigned characters denote in a base from 2 to 36. -/
def natural (base : Nat) (cs : List Char) : Except Refusal Nat :=
  let isDigit (c : Char) : Bool := worth c < base
  let cs := withoutMark base cs
  let isInside (c : Char) : Bool := isDigit c || c = '_'
  match ungrouped isDigit false (cs.takeWhile isInside) with
  | none => .error .malformed
  | some ds =>
    if isLimited base ∧ mostDigits < ds.length then .error (.tooLong ds.length)
    else if ds = [] ∨ cs.dropWhile isInside ≠ [] then .error .malformed
    else .ok (ds.foldl (fun n c => base * n + worth c) 0)

/-- The natural number that unsigned characters denote in the base that they name.
    Without a mark the base is ten, and then only zero may begin with a zero. -/
def naturalByMark (cs : List Char) : Except Refusal Nat :=
  match marked cs with
  | some base => natural base cs
  | none => do
    let n ← natural 10 cs
    if cs.head? = some '0' ∧ n ≠ 0 then .error .malformed else .ok n

/-- The integer that a numeral denotes in a base; base 0 is the one that the numeral
    names. -/
def integer (base : Nat) (cs : List Char) : Except Refusal Int := do
  let (negative, cs) := Literal.signed (characters cs)
  let n ← if base = 0 then naturalByMark cs else natural base cs
  .ok (if negative then -(n : Int) else n)

/-- The floating number that a numeral denotes. -/
def floating? (cs : List Char) : Option Binary64 := do
  Binary64.ofText? (String.ofList (← ungrouped Digits.isDigit false (characters cs)))

end Grouped

end Attest
