import Attest.Number.Digits
import Attest.Text.CharacterNames.AncientAlphabets
import Attest.Text.CharacterNames.AncientSigns
import Attest.Text.CharacterNames.Asian
import Attest.Text.CharacterNames.Brahmic
import Attest.Text.CharacterNames.EastAsian
import Attest.Text.CharacterNames.European
import Attest.Text.CharacterNames.Graphic
import Attest.Text.CharacterNames.Historic
import Attest.Text.CharacterNames.NearEastern
import Attest.Text.CharacterNames.Notation
import Attest.Text.CharacterNames.Other
import Attest.Text.CharacterNames.Phonetic
import Attest.Text.CharacterNames.Pictographs
import Attest.Text.CharacterNames.Presentation
import Attest.Text.CharacterNames.Regional
import Attest.Text.CharacterNames.Technical
import Attest.Text.Hangul
import Attest.Text.Ranges

/-!
# Names of Characters

The code point of a character, by its name in version 14 of the character data.

Most names are listed. The name of an ideograph ends with its code point, and that of a
syllable of hangul with the names of its letters. Listed names may be written in letters
of any size; the others are written in capitals.

## Main definitions

* `CharacterName.code?`: The code point with a name.
-/

namespace Attest

namespace Text

namespace CharacterName

/-- The runs of names. -/
def runs : List NameRun :=
  open CharacterNames in
  european ++ nearEastern ++ asian ++ phonetic ++ technical ++ graphic ++ eastAsian ++ regional ++
    presentation ++ ancientAlphabets ++ brahmic ++ ancientSigns ++ historic ++ notations ++
    pictographs

/-- The beginnings of listed names that end with the code point, with the code points. -/
def numbered : List (String × Ranges) :=
  [("CJK COMPATIBILITY IDEOGRAPH-", [(0xf900, 0xfa6d), (0xfa70, 0xfad9), (0x2f800, 0x2fa1d)]),
    ("KHITAN SMALL SCRIPT CHARACTER-", [(0x18b00, 0x18cd5)]),
    ("NUSHU CHARACTER-", [(0x1b170, 0x1b2fb)])]

/-- The code points of the ideographs that are not listed. -/
def ideographs : Ranges :=
  [(0x3400, 0x4dbf), (0x4e00, 0x9fff), (0x20000, 0x2a6df), (0x2a700, 0x2b738), (0x2b740, 0x2b81d),
    (0x2b820, 0x2cea1), (0x2ceb0, 0x2ebe0), (0x30000, 0x3134a)]

/-- The worth of a hexadecimal digit with a capital letter. -/
def digit? (c : Char) : Option Nat :=
  if '0' ≤ c ∧ c ≤ '9' then some (c.toNat - '0'.toNat)
  else if 'A' ≤ c ∧ c ≤ 'F' then some (c.toNat - 'A'.toNat + 10)
  else none

/-- The number that hexadecimal digits make up. -/
def number? (cs : List Char) : Option Nat := do
  return (← cs.mapM digit?).foldl (fun n d => 16 * n + d) 0

/-- What a name has behind its beginning. -/
def behind? (beginning : String) (name : List Char) : Option (List Char) :=
  if beginning.toList.isPrefixOf name then some (name.drop beginning.toList.length) else none

/-- The code point of a name that ends with it in four digits, or in five if they are
    needed. -/
def numbered? (name : List Char) : Option Nat :=
  numbered.findSome? fun (beginning, ranges) => do
    let digits ← behind? beginning name
    let n ← number? digits
    if ranges.has n ∧ digits.length = (if n < 0x10000 then 4 else 5) then some n else none

/-- The code point that an ideograph has behind the beginning of its name, in four digits
    or five. -/
def ideograph? (digits : List Char) : Option Nat := do
  let n ← number? digits
  if ideographs.has n ∧ (digits.length = 4 ∨ digits.length = 5) then some n else none

/-- The names of the initial consonants of hangul. -/
def initialNames : List String :=
  ["G", "GG", "N", "D", "DD", "R", "M", "B", "BB", "S", "SS", "", "J", "JJ", "C", "K", "T", "P", "H"]

/-- The names of the vowels. -/
def vowelNames : List String :=
  ["A", "AE", "YA", "YAE", "EO", "E", "YEO", "YE", "O", "WA", "WAE", "OE", "YO", "U", "WEO", "WE",
    "WI", "YU", "EU", "YI", "I"]

/-- The names of the final consonants, the first of which is none. -/
def finalNames : List String :=
  ["", "G", "GG", "GS", "N", "NJ", "NH", "D", "L", "LG", "LM", "LB", "LS", "LT", "LP", "LH", "M",
    "B", "BS", "S", "SS", "NG", "J", "C", "K", "T", "P", "H"]

/-- The longest name that characters begin with: its number, and the characters behind
    it. -/
def longest? (names : List String) (cs : List Char) : Option (Nat × List Char) :=
  let fitting := names.zipIdx.filter fun (name, _) => name.toList.isPrefixOf cs
  let longer (best : Option (String × Nat)) (name : String × Nat) :=
    if best.all (·.1.length < name.1.length) then some name else best
  (fitting.foldl longer none).map fun (name, i) => (i, cs.drop name.length)

/-- The code point of the syllable with letters. -/
def syllable? (cs : List Char) : Option Nat := do
  let (initial, cs) ← longest? initialNames cs
  let (vowel, cs) ← longest? vowelNames cs
  let (final, cs) ← longest? finalNames cs
  if cs.isEmpty then some (Hangul.syllable initial vowel final).toNat else none

/-- The code point of the variation selector with an abbreviated name. There are 16
    selectors in one place and 240 in another. -/
def selector? (name : List Char) : Option Nat :=
  ((List.range 256).find? fun i => name = 'V' :: 'S' :: Digits.write (i + 1)).map fun i =>
    if i < 16 then 0xfe00 + i else 0xe0100 + (i - 16)

/-- The code point of a listed name. -/
def listed? (name : List Char) : Option Nat :=
  let name := name.map Char.toUpper
  numbered? name <|> runs.findSome? (·.code? name) <|>
    (CharacterNames.otherNames.find? fun (_, names) =>
      (betweenBars [] names.toList).contains name).map (·.1) <|> selector? name

/-- The code point of the character with a name, if there is one. -/
def code? (name : List Char) : Option Nat :=
  match behind? "HANGUL SYLLABLE " name, behind? "CJK UNIFIED IDEOGRAPH-" name with
  | some letters, _ => syllable? letters
  | none, some digits => ideograph? digits
  | none, none => listed? name

end CharacterName

end Text

end Attest
