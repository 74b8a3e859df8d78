import Attest.Number.Binary64

/-!
# Templates

Texts with places that a number is put into.

A place begins with a percent sign and ends with a letter that says how the number is
written: as an integer in base ten, eight or sixteen, as a floating number with or
without an exponent, as text, or as the character with that number. In between stand
flags, the least width, behind a point the precision, and a size mark that means
nothing. Two percent signs stand for one.

A template here is filled with one natural number, so it has exactly one place that
takes it. Width or precision may be the number too, if they are written as a star, and
then nothing is left for the letter.

The templates of byte strings have the same places, but text is no part of them.

## Main definitions

* `Template.Refusal`: Why a template is not filled.
* `Template.Place`: The flags, width and precision of a place.
* `Template.Place.write`: The number in a place.
* `Template.fill`: A template with the number in its place.
-/

namespace Attest

namespace Template

/-- Why a template is not filled. -/
inductive Refusal where
  /-- The template ends inside of a place. -/
  | incomplete
  /-- A place ends with a character that is no letter of a place. -/
  | unknownLetter
  /-- A place of a byte string ends with a byte outside of ASCII. -/
  | unknownByte
  /-- A width or precision that no text can have. -/
  | tooWide
  /-- A place asks for a named value. -/
  | wantsNames
  /-- There are more places than numbers. -/
  | wantsMore
  /-- There is no place. -/
  | wantsNone
  /-- A place of a byte string asks for text. -/
  | wantsBytes
deriving DecidableEq

/-- What is templated. -/
inductive Medium where
  | text
  | bytes
deriving DecidableEq

/-- The flags, width and precision of a place. -/
structure Place where
  /-- Fill up on the right. -/
  leftAligned : Bool
  /-- Write a plus sign. -/
  signed : Bool
  /-- Write a blank for a plus sign. -/
  spaced : Bool
  /-- Mark the base, and keep the point of a floating number. -/
  marked : Bool
  /-- Fill up with zeros. -/
  zeroFilled : Bool
  /-- The least width. -/
  width : Nat
  /-- The precision, if there is one. -/
  precision : Option Nat

namespace Place

/-- The place without flags. -/
def plain : Place :=
  ⟨false, false, false, false, false, 0, none⟩

/-- The place with one more flag, if the character is one. -/
def flag? (p : Place) (c : Char) : Option Place :=
  if c = '-' then some { p with leftAligned := true }
  else if c = '+' then some { p with signed := true }
  else if c = ' ' then some { p with spaced := true }
  else if c = '#' then some { p with marked := true }
  else if c = '0' then some { p with zeroFilled := true }
  else none

/-- Text in a place, filled up with blanks. -/
def align (p : Place) (cs : List Char) : List Char :=
  let blanks := List.replicate (p.width - cs.length) ' '
  if p.leftAligned then cs ++ blanks else blanks ++ cs

/-- A number in a place: sign and mark of the base stand in front of the zeros that it is
    filled up with, but behind blanks. -/
def alignNumber (p : Place) (mark digits : List Char) : List Char :=
  let sign := if p.signed then ['+'] else if p.spaced then [' '] else []
  let front := sign ++ mark
  if p.zeroFilled && !p.leftAligned then
    front ++ (List.replicate (p.width - (front.length + digits.length)) '0' ++ digits)
  else p.align (front ++ digits)

/-- An integer with the digits of a base. -/
def integer (p : Place) (mark digits : List Char) : List Char :=
  let zeros := List.replicate (p.precision.getD 0 - digits.length) '0'
  p.alignNumber (if p.marked then mark else []) (zeros ++ digits)

/-- A point with the digits behind it; without digits it is left out, unless the place
    is marked. -/
def fraction (p : Place) (digits : List Char) : List Char :=
  if digits = [] then (if p.marked then ['.'] else []) else '.' :: digits

/-- The first digits of a natural number, rounded to `count` of them, and the exponent
    of the first one. A half goes to the even neighbour. -/
def leading (count n : Nat) : List Char × Nat :=
  let size := Digits.count n
  let kept :=
    if size ≤ count then n * Nat.pow 10 (count - size)
    else Binary64.nearest n (Nat.pow 10 (size - count))
  if kept = Nat.pow 10 count then (Digits.write (Nat.pow 10 (count - 1)), size)
  else (Digits.padded count kept, size - 1)

/-- Digits with an exponent. -/
def scientific (p : Place) (mark : Char) (ds : List Char) (e : Nat) : List Char :=
  ds.take 1 ++ (p.fraction (ds.drop 1) ++ (mark :: '+' :: Digits.padded 2 e))

/-- The digits behind the point that are written: without zeros at the end, unless the
    place is marked. -/
def significant (p : Place) (ds : List Char) : List Char :=
  if p.marked then ds else (ds.reverse.dropWhile (· = '0')).reverse

/-- A natural number as a floating number with a fixed number of places. -/
def fixed (p : Place) (n : Nat) : List Char :=
  Digits.write n ++ p.fraction (List.replicate (p.precision.getD 6) '0')

/-- A natural number as a floating number with an exponent. -/
def exponential (p : Place) (mark : Char) (n : Nat) : List Char :=
  let (ds, e) := leading (p.precision.getD 6 + 1) n
  p.scientific mark ds e

/-- A natural number as a floating number with as many digits as the precision says,
    and with an exponent if that is shorter. -/
def general (p : Place) (mark : Char) (n : Nat) : List Char :=
  let count := max 1 (p.precision.getD 6)
  let (ds, e) := leading count n
  if count ≤ e then
    p.scientific mark (ds.take 1 ++ p.significant (ds.drop 1)) e
  else ds.take (e + 1) ++ p.fraction (p.significant (ds.drop (e + 1)))

/-- A natural number as text, of which the precision limits the length. -/
def textual (p : Place) (n : Nat) : List Char :=
  let ds := Digits.write n
  p.align (match p.precision with
    | some limit => ds.take limit
    | none => ds)

/-- The number in a place that ends with a letter. -/
def write (p : Place) (medium : Medium) (letter : Char) (n : Nat) : Except Refusal (List Char) :=
  let upper (cs : List Char) : List Char := cs.map Char.toUpper
  match letter with
  | 'd' | 'i' | 'u' => .ok (p.integer [] (Digits.write n))
  | 'o' => .ok (p.integer ['0', 'o'] (Nat.toDigits 8 n))
  | 'x' => .ok (p.integer ['0', 'x'] (Nat.toDigits 16 n))
  | 'X' => .ok (p.integer ['0', 'X'] (upper (Nat.toDigits 16 n)))
  | 'f' | 'F' => .ok (p.alignNumber [] (p.fixed n))
  | 'e' => .ok (p.alignNumber [] (p.exponential 'e' n))
  | 'E' => .ok (p.alignNumber [] (p.exponential 'E' n))
  | 'g' => .ok (p.alignNumber [] (p.general 'e' n))
  | 'G' => .ok (p.alignNumber [] (p.general 'E' n))
  | 'c' => .ok (p.align [Char.ofNat n])
  | 'r' | 'a' => .ok (p.textual n)
  | 's' => if medium = .text then .ok (p.textual n) else .error .wantsBytes
  | 'b' => .error (if medium = .text then .unknownLetter else .wantsBytes)
  | c => .error (if medium = .bytes ∧ 0x80 ≤ c.toNat then .unknownByte else .unknownLetter)

end Place

/-- Which parts of a place may still come. -/
inductive Stage where
  /-- Everything, names and a second percent sign included. -/
  | opening
  /-- Flags and what follows them. -/
  | flags
  /-- More digits of the width, and what follows it. -/
  | width
  /-- A point, and what follows it. -/
  | point
  /-- The precision, and what follows it. -/
  | precision
  /-- More digits of the precision, and what follows it. -/
  | precisionDigits
  /-- A size mark and the letter. -/
  | size
  /-- The letter. -/
  | letter
deriving DecidableEq

/-- How far a template has been read. -/
structure Progress where
  /-- The place that is being read, if one is. -/
  inside : Option (Stage × Place)
  /-- Whether the number has been used. -/
  used : Bool
  /-- What has been written, the last character first. -/
  written : List Char

/-- The largest width. -/
def widest : Nat := Nat.pow 2 63 - 1

/-- The largest precision. -/
def mostPrecise : Nat := Nat.pow 2 31 - 1

/-- A number with one more digit, up to a largest one. -/
def extended (limit n : Nat) (c : Char) : Except Refusal Nat :=
  if (limit - Digits.worth c) / 10 < n then .error .tooWide else .ok (10 * n + Digits.worth c)

/-- End a place with its letter. -/
def finish (medium : Medium) (n : Nat) (p : Place) (s : Progress) (c : Char) :
    Except Refusal Progress :=
  if s.used then .error .wantsMore
  else do
    let cs ← p.write medium c n
    .ok ⟨none, true, cs.reverse ++ s.written⟩

/-- Go on in a place. -/
def go (stage : Stage) (p : Place) (s : Progress) : Except Refusal Progress :=
  .ok { s with inside := some (stage, p) }

/-- Use the number for a width or precision. -/
def star (s : Progress) : Except Refusal Progress :=
  if s.used then .error .wantsMore else .ok { s with used := true }

/-- Read the size mark or the letter. -/
def readSize (medium : Medium) (n : Nat) (p : Place) (s : Progress) (c : Char) :
    Except Refusal Progress :=
  if c = 'h' ∨ c = 'l' ∨ c = 'L' then go .letter p s else finish medium n p s c

/-- Read a point, or what follows it. -/
def readPoint (medium : Medium) (n : Nat) (p : Place) (s : Progress) (c : Char) :
    Except Refusal Progress :=
  if c = '.' then go .precision { p with precision := some 0 } s else readSize medium n p s c

/-- Read a character of a place. -/
def readInside (medium : Medium) (n : Nat) (stage : Stage) (p : Place) (s : Progress) (c : Char) :
    Except Refusal Progress :=
  match stage with
  | .opening | .flags =>
    if stage = .opening ∧ c = '%' then .ok { s with inside := none, written := '%' :: s.written }
    else if stage = .opening ∧ c = '(' then .error .wantsNames
    else match p.flag? c with
      | some p => go .flags p s
      | none =>
        if c = '*' then do go .point { p with width := n } (← star s)
        else if Digits.isDigit c then go .width { p with width := Digits.worth c } s
        else readPoint medium n p s c
  | .width =>
    if Digits.isDigit c then do go .width { p with width := ← extended widest p.width c } s
    else readPoint medium n p s c
  | .point => readPoint medium n p s c
  | .precision =>
    if c = '*' then do go .size { p with precision := some n } (← star s)
    else if Digits.isDigit c then go .precisionDigits { p with precision := some (Digits.worth c) } s
    else readSize medium n p s c
  | .precisionDigits =>
    if Digits.isDigit c then do
      let precision ← extended mostPrecise (p.precision.getD 0) c
      go .precisionDigits { p with precision := some precision } s
    else readSize medium n p s c
  | .size => readSize medium n p s c
  | .letter => finish medium n p s c

/-- Read a character of a template. -/
def read (medium : Medium) (n : Nat) (s : Progress) (c : Char) : Except Refusal Progress :=
  match s.inside with
  | some (stage, p) => readInside medium n stage p s c
  | none =>
    if c = '%' then go .opening .plain s else .ok { s with written := c :: s.written }

/-- A template with a natural number below `2 ^ 53` in its place. -/
def fill (medium : Medium) (n : Nat) (template : List Char) : Except Refusal (List Char) := do
  let s ← template.foldlM (read medium n) ⟨none, false, []⟩
  if s.inside.isSome then .error .incomplete
  else if s.used then .ok s.written.reverse
  else .error .wantsNone

end Template

end Attest
