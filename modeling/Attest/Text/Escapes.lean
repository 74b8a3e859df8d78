import Attest.Text.CharacterName
import Attest.Text.Reader

/-!
# Escaped Text

Formats in which a backslash introduces a code point by its number or name.

The full format has a letter for each of the usual controls, octal numbers of up to
three digits, hexadecimal ones of two, four or eight, and names between braces. A
backslash in front of the end of a line joins two lines, and one in front of anything
else is itself. The plain format has hexadecimal numbers of four and eight digits only,
and a backslash that follows another one introduces nothing. In both, a byte that is
not escaped is the character of the same number.

## Main definitions

* `Escapes.full`: The decoder of the full format.
* `Escapes.plain`: The decoder of the plain format.
-/

namespace Attest

namespace Text

namespace Escapes

/-- The byte of a backslash. -/
def backslash : UInt8 := 0x5c

/-- The worth of a hexadecimal digit. -/
def hexDigit? (b : UInt8) : Option Nat :=
  if 0x30 ≤ b ∧ b ≤ 0x39 then some (b.toNat - 0x30)
  else if 0x41 ≤ b ∧ b ≤ 0x46 then some (b.toNat - 0x41 + 10)
  else if 0x61 ≤ b ∧ b ≤ 0x66 then some (b.toNat - 0x61 + 10)
  else none

/-- The number that the given count of hexadecimal digits makes up, if there are so many
    and it is a code point. -/
def hexadecimal? (count : Nat) (bs : List UInt8) : Option Nat := do
  let digits ← (bs.take count).mapM hexDigit?
  let n := digits.foldl (fun n d => 16 * n + d) 0
  if digits.length = count ∧ n < 0x110000 then some n else none

/-- Whether a byte is an octal digit. -/
def isOctal (b : UInt8) : Bool :=
  0x30 ≤ b && b ≤ 0x37

/-- The code point of a letter that stands for a control, or of a quote. -/
def letter? (b : UInt8) : Option Nat :=
  if b = 0x5c || b = 0x27 || b = 0x22 then some b.toNat
  else if b = 0x61 then some 0x07
  else if b = 0x62 then some 0x08
  else if b = 0x74 then some 0x09
  else if b = 0x6e then some 0x0a
  else if b = 0x76 then some 0x0b
  else if b = 0x66 then some 0x0c
  else if b = 0x72 then some 0x0d
  else none

/-- How many hexadecimal digits follow a letter. -/
def digitCount? (b : UInt8) : Option Nat :=
  if b = 0x78 then some 2
  else if b = 0x75 then some 4
  else if b = 0x55 then some 8
  else none

/-- A name between braces: the code point that it names, and the number of bytes. -/
def named? : List UInt8 → Option (Nat × Nat)
  | 0x7b :: bs => do
    let name := bs.takeWhile (· ≠ 0x7d)
    if name.length < bs.length then
      let n ← CharacterName.code? (name.map fun b => Char.ofNat b.toNat)
      some (n, name.length + 2)
    else none
  | _ => none

/-- What the bytes behind a backslash stand for in the full format, and how many they
    are. -/
def escape? : List UInt8 → Option (List Nat × Nat)
  | [] => none
  | b :: bs =>
    match letter? b, digitCount? b with
    | some n, _ => some ([n], 1)
    | none, some count => (hexadecimal? count bs).map fun n => ([n], count + 1)
    | none, none =>
      if b = 0x0a then some ([], 1)
      else if b = 0x4e then (named? bs).map fun (n, length) => ([n], length + 1)
      else
        let octal := ((b :: bs).take 3).takeWhile isOctal
        if octal.isEmpty then some ([backslash.toNat, b.toNat], 1)
        else some ([octal.foldl (fun n d => 8 * n + (d.toNat - 0x30)) 0], octal.length)

/-- What the bytes behind a backslash stand for in the plain format, and how many they
    are. -/
def plainEscape? : List UInt8 → Option (List Nat × Nat)
  | [] => some ([backslash.toNat], 0)
  | b :: bs =>
    match if b = 0x78 then none else digitCount? b with
    | some count => (hexadecimal? count bs).map fun n => ([n], count + 1)
    | none => some ([backslash.toNat, b.toNat], 1)

/-- The rule by which one piece is read, where a backslash stands for something together
    with the bytes behind it. -/
def reader (behindBackslash : List UInt8 → Option (List Nat × Nat)) : Reader Unit :=
  fun _ b bs =>
    if b = backslash then
      Refusal.unless ((behindBackslash bs).map fun (points, behind) => ⟨points, behind, ()⟩)
    else .ok ⟨[b.toNat], 0, ()⟩

/-- The decoder of the full format. -/
def full : Decoder :=
  (reader escape?).decoder

/-- The decoder of the plain format. -/
def plain : Decoder :=
  (reader plainEscape?).decoder

end Escapes

end Text

end Attest
