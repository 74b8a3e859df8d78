import Attest.Text.Charsets.Ksx1001
import Attest.Text.Hangul
import Attest.Text.Reader

/-!
# Korean Encodings

Encodings that leave ASCII as it is and write a Korean character in two bytes.

The set KS X 1001 has 2350 of the 11172 syllables. The encodings differ in how they
write the others: by spelling out their letters, by further codes in the order of the
syllables, or by building all syllables from the numbers of their letters.

## Main definitions

* `Korean.eucKr`: The encoding that spells out the other syllables.
* `Korean.cp949`: The code page 949, with further codes.
* `Korean.johab`: The encoding that builds syllables.
-/

namespace Attest

namespace Text

namespace Korean

/-- The characters of KS X 1001 by two bytes, which are the row and the column, each with
    the highest digit set. -/
def ksx1001? (code : Nat) : Option (List Char) :=
  Charsets.ksx1001.text? (code - 0x8080)

/-- The byte that each letter of a spelled syllable has in front. -/
def letterLead : UInt8 := 0xa4

/-- The byte of the letter that fills an empty place. -/
def filler : UInt8 := 0xd4

/-- The letter of a byte. -/
def letter (b : UInt8) : Char :=
  Char.ofNat (0x3131 + b.toNat - 0xa1)

/-- The syllable that three bytes spell. -/
def spelled? (initial vowel final : UInt8) : Option Char := do
  let i ← Hangul.initials.idxOf? (letter initial)
  let v ← Hangul.vowels.idxOf? (letter vowel)
  let f ← if final = filler then some 0 else (Hangul.finals.idxOf? (letter final)).map (· + 1)
  return Hangul.syllable i v f

/-- The encoding that spells out the other syllables, behind a letter that fills an
    empty place. -/
def eucKr : Decoder :=
  Reader.decoder <| Reader.stateless fun b bs =>
    match ascii? b, bs with
    | some c, _ => some ([c], 0)
    | none, c :: bs =>
      if b = letterLead && c = filler then
        match bs with
        | p :: initial :: q :: vowel :: r :: final :: _ =>
          if p = letterLead && q = letterLead && r = letterLead then
            (spelled? initial vowel final).map fun s => ([s], 7)
          else none
        | _ => none
      else (ksx1001? (codeOf b c)).map fun cs => (cs, 1)
    | none, [] => none

/-- The numbers of an ascending list that are not in another one. -/
def without : List Nat → List Nat → List Nat
  | [], _ => []
  | ms, [] => ms
  | m :: ms, n :: ns => if m = n then without ms ns else m :: without ms (n :: ns)

/-- The syllables that KS X 1001 lacks, in their order. -/
def furtherSyllables : List Nat :=
  without (List.range' Hangul.firstSyllable Hangul.syllableCount)
    ((pointsOf Charsets.ksx1001.characters).filter Hangul.isSyllable)

/-- The number of a byte among those that come second in a further code. -/
def secondNumber? (c : Nat) : Option Nat :=
  if 0x41 ≤ c ∧ c ≤ 0x5a then some (c - 0x41)
  else if 0x61 ≤ c ∧ c ≤ 0x7a then some (c - 0x61 + 26)
  else if 0x81 ≤ c ∧ c ≤ 0xfe then some (c - 0x81 + 52)
  else none

/-- The number of a further code. The first 32 rows are full; the next ones have only
    the places in front of KS X 1001. -/
def furtherNumber? (code : Nat) : Option Nat := do
  let c ← secondNumber? (code % 256)
  let b := code / 256
  if b < 0x81 then none
  else if b ≤ 0xa0 then some ((b - 0x81) * 178 + c)
  else if c < 84 then some (32 * 178 + (b - 0xa1) * 84 + c)
  else none

/-- The characters of code page 949 by two bytes. -/
def cp949? (code : Nat) : Option (List Char) :=
  ksx1001? code <|> do
    let n ← furtherSyllables[← furtherNumber? code]?
    some [Char.ofNat n]

/-- The code page 949. -/
def cp949 : Decoder :=
  (Reader.pairs ascii? cp949?).decoder

/-- A place for a letter in a built syllable. -/
inductive Slot where
  | empty
  /-- The letter with a number. -/
  | filled (number : Nat)

/-- The initial consonant with a code of five binary digits. -/
def initialSlot? (n : Nat) : Option Slot :=
  if n = 1 then some .empty else if 2 ≤ n ∧ n ≤ 20 then some (.filled (n - 2)) else none

/-- The vowel with a code of five binary digits. The codes come in groups of six. -/
def vowelSlot? (n : Nat) : Option Slot :=
  if n = 2 then some .empty
  else if 3 ≤ n ∧ n ≤ 29 ∧ 2 ≤ n % 8 then some (.filled (n / 8 * 6 + n % 8 - 3))
  else none

/-- The final consonant with a code of five binary digits. -/
def finalSlot? (n : Nat) : Option Slot :=
  if n = 1 then some .empty
  else if 2 ≤ n ∧ n ≤ 17 then some (.filled (n - 2))
  else if 19 ≤ n ∧ n ≤ 29 then some (.filled (n - 3))
  else none

/-- The character that letters build. A letter may stand alone, and none at all is a
    wide blank. -/
def built? : Slot → Slot → Slot → Option Char
  | .empty, .empty, .empty => some '\u3000'
  | .filled i, .empty, .empty => Hangul.initials[i]?
  | .empty, .filled v, .empty => Hangul.vowels[v]?
  | .empty, .empty, .filled f => Hangul.finals[f]?
  | .filled i, .filled v, .empty => some (Hangul.syllable i v 0)
  | .filled i, .filled v, .filled f => some (Hangul.syllable i v (f + 1))
  | _, _, _ => none

/-- Whether a code is that of a letter that stands alone, which is built instead. -/
def isReplaced (code : Nat) : Bool :=
  0xdaa1 ≤ code && code ≤ 0xdad3

/-- The row and column of KS X 1001 with two bytes, as a code. Two rows share a first
    byte, and some bytes are left out among the second ones. -/
def layoutCode? (code : Nat) : Option Nat :=
  let b := code / 256
  let c := code % 256
  if b < 0xd9 ∨ b = 0xdf ∨ 0xf9 < b ∨ isReplaced code then none
  else if (0x31 ≤ c ∧ c ≤ 0x7e) ∨ (0x91 ≤ c ∧ c ≤ 0xfe) then
    let row := if b < 0xe0 then 2 * (b - 0xd9) else 2 * b - 0x197
    let place := if c < 0x91 then c - 0x31 else c - 0x43
    some ((row + place / 94 + 0x21) * 256 + place % 94 + 0x21)
  else none

/-- The characters of the building encoding by two bytes. Below the signs, the digits of
    both bytes are the codes of three letters. -/
def johab? (code : Nat) : Option (List Char) :=
  if code < 0xd800 then do
    let c ← built? (← initialSlot? (code / 1024 % 32)) (← vowelSlot? (code / 32 % 32))
      (← finalSlot? (code % 32))
    some [c]
  else do Charsets.ksx1001.text? (← layoutCode? code)

/-- The encoding that builds syllables. -/
def johab : Decoder :=
  (Reader.pairs ascii? johab?).decoder

end Korean

end Text

end Attest
