import Attest.Text.Charsets.Cp932
import Attest.Text.Charsets.Jisx0208
import Attest.Text.Charsets.Jisx0212
import Attest.Text.Charsets.Jisx0213
import Attest.Text.Reader

/-!
# Japanese Encodings

Encodings that write a Japanese character in two bytes, or in three.

There are two layouts of the rows and columns of a set. The extended one sets the
highest digit of both. The shifted one has two rows for each first byte, which leaves
room for narrow katakana of one byte. Each is used for JIS X 0208, with or without
additions, and for the two planes of JIS X 0213.

## Main definitions

* `Japanese.Edition`: The editions of JIS X 0213.
* `Japanese.eucJp`, `Japanese.eucJisx0213`: The encodings in the extended layout.
* `Japanese.shiftJis`, `Japanese.cp932`, `Japanese.shiftJisx0213`: Those in the shifted
  layout.
-/

namespace Attest

namespace Text

namespace Japanese

/-- The editions of JIS X 0213. -/
inductive Edition where
  | first
  | revised
deriving DecidableEq

/-- The codes of the first plane that are new in the revised edition. -/
def revisedCodes : List Nat :=
  [0x2e21, 0x2f7e, 0x4f54, 0x4f7e, 0x7427, 0x7e7a, 0x7e7b, 0x7e7c, 0x7e7d, 0x7e7e]

/-- The characters of the first plane of JIS X 0213. -/
def firstPlane? (edition : Edition) (code : Nat) : Option (List Char) :=
  if edition = .first ∧ code ∈ revisedCodes then none
  else Charsets.jisx0208.text? code <|> Charsets.jisx0213First.text? code

/-- The characters of the second plane of JIS X 0213. One of them has another form in the
    first edition. -/
def secondPlane? (edition : Edition) (code : Nat) : Option (List Char) :=
  if edition = .first ∧ code = 0x7d3b then some ['鬝'] else Charsets.jisx0213Second.text? code

/-- The narrow katakana and signs of a byte. -/
def katakana? (b : UInt8) : Option Char :=
  if 0xa1 ≤ b ∧ b ≤ 0xdf then some (Char.ofNat (0xff61 + b.toNat - 0xa1)) else none

/-- The latin letters and signs of a byte, where a currency sign and a line stand in
    the place of two signs of ASCII. -/
def roman? (b : UInt8) : Option Char :=
  if b = 0x5c then some '¥' else if b = 0x7e then some '‾' else ascii? b

/-- The byte in front of narrow katakana in the extended layout. -/
def katakanaLead : UInt8 := 0x8e

/-- The byte in front of a code of a second set in the extended layout. -/
def secondLead : UInt8 := 0x8f

/-- The decoder of an encoding in the extended layout with two sets. -/
def extended (first second : Nat → Option (List Char)) : Decoder :=
  Reader.decoder <| Reader.stateless fun b bs =>
    match ascii? b, bs with
    | some c, _ => some ([c], 0)
    | none, c :: bs =>
      if b = katakanaLead then (katakana? c).map fun k => ([k], 1)
      else if b = secondLead then
        match bs with
        | d :: _ => (second (codeOf c d - 0x8080)).map fun cs => (cs, 2)
        | [] => none
      else (first (codeOf b c - 0x8080)).map fun cs => (cs, 1)
    | none, [] => none

/-- JIS X 0208 and JIS X 0212 in the extended layout. -/
def eucJp : Decoder :=
  extended Charsets.jisx0208.text? Charsets.jisx0212.text?

/-- JIS X 0213 in the extended layout. Codes that the second plane leaves free are those
    of JIS X 0212, and the tilde is a wide one. -/
def eucJisx0213 (edition : Edition) : Decoder :=
  extended (fun code => if code = 0x2232 then some ['～'] else firstPlane? edition code)
    (fun code => secondPlane? edition code <|> Charsets.jisx0212.text? code)

/-- The row and column, both from zero, that two bytes stand for in the shifted layout. -/
def shiftedPlace? (code : Nat) : Option (Nat × Nat) :=
  let b := code / 256
  let c := code % 256
  if ((0x81 ≤ b ∧ b ≤ 0x9f) ∨ (0xe0 ≤ b ∧ b ≤ 0xfc)) ∧ 0x40 ≤ c ∧ c ≠ 0x7f ∧ c ≤ 0xfc then
    let rows := if b < 0xe0 then b - 0x81 else b - 0xc1
    let place := if c < 0x80 then c - 0x40 else c - 0x41
    some (2 * rows + place / 94, place % 94)
  else none

/-- The code of a row and column, both from zero. -/
def codeAt (row column : Nat) : Nat :=
  256 * (row + 0x21) + (column + 0x21)

/-- How many rows a plane has. -/
def rowCount : Nat := 94

/-- The characters of JIS X 0208 in the shifted layout. -/
def shiftedJisx0208? (code : Nat) : Option (List Char) := do
  let (row, column) ← shiftedPlace? code
  Charsets.jisx0208.text? (codeAt row column)

/-- JIS X 0208 in the shifted layout. -/
def shiftJis : Decoder :=
  (Reader.pairs (fun b => ascii? b <|> katakana? b) shiftedJisx0208?).decoder

/-- The characters of one byte in code page 932, where four bytes that were free are
    characters of private use. -/
def cp932Single? (b : UInt8) : Option Char :=
  if b ≤ 0x80 then some (Char.ofNat b.toNat)
  else if b = 0xa0 then some '\uf8f0'
  else if 0xfd ≤ b then some (Char.ofNat (0xf8f1 + b.toNat - 0xfd))
  else katakana? b

/-- The characters of two bytes in code page 932. The rows behind the plane are for
    private use. -/
def cp932Double? (code : Nat) : Option (List Char) :=
  Charsets.cp932Additions.text? code <|> shiftedJisx0208? code <|> do
    let (row, column) ← shiftedPlace? code
    if rowCount ≤ row ∧ row < rowCount + 20 then
      some [Char.ofNat (0xe000 + rowCount * (row - rowCount) + column)]
    else none

/-- The code page 932. -/
def cp932 : Decoder :=
  (Reader.pairs cp932Single? cp932Double?).decoder

/-- The first bytes of the codes in the second plane of JIS X 0213 that are in use, in
    the order in which they follow the first plane. -/
def secondPlaneLeads : List Nat :=
  [0x21, 0x28, 0x23, 0x24, 0x25, 0x2c, 0x2d, 0x2e, 0x2f] ++ List.range' 0x6e 17

/-- The characters of JIS X 0213 in the shifted layout. The wide backslash is the narrow
    one. -/
def shiftedJisx0213? (edition : Edition) (code : Nat) : Option (List Char) := do
  let (row, column) ← shiftedPlace? code
  if code = 0x815f then some ['\\']
  else if row < rowCount then firstPlane? edition (codeAt row column)
  else
    let lead ← secondPlaneLeads[row - rowCount]?
    secondPlane? edition (256 * lead + (column + 0x21))

/-- JIS X 0213 in the shifted layout. -/
def shiftJisx0213 (edition : Edition) : Decoder :=
  (Reader.pairs (fun b => roman? b <|> katakana? b) (shiftedJisx0213? edition)).decoder

end Japanese

end Text

end Attest
