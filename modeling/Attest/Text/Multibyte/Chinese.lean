import Attest.Text.Charsets.Big5
import Attest.Text.Charsets.Cp950
import Attest.Text.Charsets.Gb18030
import Attest.Text.Charsets.Gb2312
import Attest.Text.Charsets.Gbk
import Attest.Text.Charsets.Hkscs
import Attest.Text.Reader
import Attest.Text.Utf

/-!
# Chinese Encodings

Encodings that leave ASCII as it is and write a Chinese character in two bytes.

There are two families. One begins with Big5, to which a code page and a supplement
were made. The other is a chain: GBK contains GB 2312 but for two signs, and GB 18030
contains GBK. The last one has four bytes for every character that has no two.

## Main definitions

* `Chinese.big5`, `Chinese.cp950`, `Chinese.big5Hkscs`: The family of Big5.
* `Chinese.gb2312`, `Chinese.gbk`, `Chinese.gb18030`: The chain.
-/

namespace Attest

namespace Text

namespace Chinese

/-- The encoding Big5. -/
def big5 : Decoder :=
  (Reader.pairs ascii? Charsets.big5.text?).decoder

/-- The code page 950. -/
def cp950 : Decoder :=
  (Reader.pairs ascii? fun code =>
    Charsets.cp950Additions.text? code <|> Charsets.big5.text? code).decoder

/-- Whether a code lies in the part of Big5 that the supplement fills anew. -/
def isRefilled (code : Nat) : Bool :=
  0xc6a1 ≤ code && code < 0xc900

/-- Big5 with the supplement. -/
def big5Hkscs : Decoder :=
  (Reader.pairs ascii? fun code =>
    Charsets.hkscs.text? code <|>
      if isRefilled code then none else Charsets.big5.text? code).decoder

/-- The characters of GB 2312 by two bytes, which are the row and the column, each with
    the highest digit set. -/
def gb2312? (code : Nat) : Option (List Char) :=
  Charsets.gb2312.text? (code - 0x8080)

/-- The encoding of GB 2312 beside ASCII. -/
def gb2312 : Decoder :=
  (Reader.pairs ascii? gb2312?).decoder

/-- The characters of GBK by two bytes. -/
def gbk? (code : Nat) : Option (List Char) :=
  Charsets.gbkAdditions.text? code <|> gb2312? code

/-- The encoding GBK. -/
def gbk : Decoder :=
  (Reader.pairs ascii? gbk?).decoder

/-- The characters of GB 18030 by two bytes. -/
def gb18030? (code : Nat) : Option (List Char) :=
  gbk? code <|> Charsets.gb18030Additions.text? code

/-- Whether a byte is a digit of ASCII. -/
def isDigit (b : UInt8) : Bool :=
  0x30 ≤ b && b ≤ 0x39

/-- Whether a byte may be the first or third of four. -/
def isLead (b : UInt8) : Bool :=
  0x81 ≤ b && b ≤ 0xfe

/-- The first number of a character beyond the basic plane. -/
def firstSupplementary : Nat := 189000

/-- The characters of GB 18030 by four bytes. The bytes are numbered in their order, and
    characters beyond the basic plane succeed each other. -/
def fourBytes? (b c d e : UInt8) : Option (List Char) :=
  if isLead b && isDigit c && isLead d && isDigit e then
    let number := ((b.toNat - 0x81) * 10 + (c.toNat - 0x30)) * 1260 + (d.toNat - 0x81) * 10 +
      (e.toNat - 0x30)
    if number < firstSupplementary then Charsets.gb18030Basic.text? number
    else (charOf? (0x10000 + (number - firstSupplementary))).map fun c => [c]
  else none

/-- The encoding of GB 18030. A digit behind the first byte announces four bytes. -/
def gb18030 : Decoder :=
  Reader.decoder <| Reader.stateless fun b bs =>
    match ascii? b, bs with
    | some c, _ => some ([c], 0)
    | none, c :: bs =>
      if isDigit c then
        match bs with
        | d :: e :: _ => (fourBytes? b c d e).map fun cs => (cs, 3)
        | _ => none
      else (gb18030? (codeOf b c)).map fun cs => (cs, 1)
    | none, [] => none

end Chinese

end Text

end Attest
