import Attest.Text.Decoder
import Attest.Text.Reader

/-!
# The Transformation Format of Seven Binary Digits

Text in ASCII, where other characters stand in sections that begin with a plus sign.

In a section, characters of ASCII are digits of base 64. Together they spell units of 16
binary digits, and two surrogates make up one code point. A section ends with the first
byte that is no digit, and a minus sign there is passed over. The digits that are left
over must be zero, and too few for a digit of base 64. A plus sign with a minus sign is
a plus sign.

## Main definitions

* `Utf7.Section`: What is known inside a section.
* `Utf7.decoder`: The decoder.
-/

namespace Attest

namespace Text

namespace Utf7

/-- What is known inside a section. -/
structure Section where
  /-- How many binary digits are left over. -/
  digits : Nat
  /-- The number that they make up. -/
  value : Nat
  /-- A surrogate that waits for its partner. -/
  waiting : Option Nat

/-- Where in the text a byte stands. -/
inductive Spot where
  /-- Outside of the sections. -/
  | outside
  /-- Directly behind the plus sign of a section. -/
  | opening
  /-- Further inside. -/
  | inside (s : Section)

/-- The worth of a digit of base 64. -/
def digit? (b : UInt8) : Option Nat :=
  if 0x41 ≤ b ∧ b ≤ 0x5a then some (b.toNat - 0x41)
  else if 0x61 ≤ b ∧ b ≤ 0x7a then some (b.toNat - 0x61 + 26)
  else if 0x30 ≤ b ∧ b ≤ 0x39 then some (b.toNat - 0x30 + 52)
  else if b = 0x2b then some 62
  else if b = 0x2f then some 63
  else none

/-- The code points that are complete with a unit, and the surrogate that now waits. A
    surrogate whose partner does not come stands alone. -/
def join (waiting : Option Nat) (unit : Nat) : List Nat × Option Nat :=
  let isHigh := 0xd800 ≤ unit && unit < 0xdc00
  match waiting with
  | some high =>
    if 0xdc00 ≤ unit ∧ unit < 0xe000 then
      ([0x10000 + (high - 0xd800) * 0x400 + (unit - 0xdc00)], none)
    else if isHigh then ([high], some unit)
    else ([high, unit], none)
  | none => if isHigh then ([], some unit) else ([unit], none)

/-- A section with one more digit, and the code points that are complete with it. -/
def Section.push (s : Section) (digit : Nat) : List Nat × Section :=
  let value := s.value * 64 + digit
  let digits := s.digits + 6
  if 16 ≤ digits then
    let rest := Nat.pow 2 (digits - 16)
    let (points, waiting) := join s.waiting (value / rest)
    (points, ⟨digits - 16, value % rest, waiting⟩)
  else ([], ⟨digits, value, s.waiting⟩)

/-- Whether a section may end. -/
def Section.isComplete (s : Section) : Bool :=
  s.digits < 6 && s.value = 0

/-- The section before its first digit. -/
def Section.empty : Section :=
  ⟨0, 0, none⟩

/-- Reading a byte outside of the sections. -/
def readOutside (b : UInt8) : Except Refusal (Reading Spot) :=
  if b = 0x2b then .ok ⟨[], 0, .opening⟩
  else if b < 0x80 then .ok ⟨[b.toNat], 0, .outside⟩
  else .error .badBytes

/-- The rule by which one byte is read. -/
def reader : Reader Spot :=
  fun spot b _ =>
    match spot, digit? b with
    | .outside, _ => readOutside b
    | .opening, some d =>
      let (points, s) := Section.empty.push d
      .ok ⟨points, 0, .inside s⟩
    | .opening, none => if b = 0x2d then .ok ⟨[0x2b], 0, .outside⟩ else .error .badBytes
    | .inside s, some d =>
      let (points, s) := s.push d
      .ok ⟨points, 0, .inside s⟩
    | .inside s, none => do
      -- The section is over, and a surrogate that still waits stands alone.
      if s.isComplete then
        let lone := s.waiting.toList
        if b = 0x2d then .ok ⟨lone, 0, .outside⟩
        else
          let next ← readOutside b
          .ok { next with points := lone ++ next.points }
      else .error .badBytes

/-- Whether a text may end at a spot. -/
def Spot.isFinal : Spot → Bool
  | outside | opening => true
  | inside s => s.isComplete && s.waiting.isNone

/-- The code points of a byte string, from a spot on. -/
def points (spot : Spot) : List UInt8 → Except Refusal (List Nat)
  | [] => if spot.isFinal then .ok [] else .error .badBytes
  | b :: bs => do
    let piece ← reader spot b bs
    return piece.points ++ (← points piece.state bs)

/-- The decoder of the format. -/
def decoder : Decoder :=
  points .outside

end Utf7

end Text

end Attest
