/-!
# Code Pages

Encodings of text with one byte for each character.

There are 256 bytes and so at most 256 characters. A page is written in rows of 16
characters, and a row is left empty if its characters are those of the same number;
where even the first half of the rows is of that kind, which is ASCII, it is left out
altogether. A byte that stands for nothing has the replacement character in its place.

## Main definitions

* `CodePage`: The characters of the bytes.
* `CodePage.char?`: The character that a byte stands for.
* `CodePage.decode?`: The characters of a byte string.
-/

namespace Attest

namespace Text

/-- An encoding with one byte for each character. -/
structure CodePage where
  /-- The name of the page. -/
  name : String
  /-- The other names that it goes by. -/
  otherNames : List String
  /-- The rows of 16 characters, up to the last one. -/
  rows : List String

namespace CodePage

/-- The place of a byte that stands for nothing. -/
def gap : Char := '\ufffd'

/-- The row of a byte. Rows are counted from the last one, because the first ones may
    be left out. -/
def row (p : CodePage) (b : UInt8) : List Char :=
  ((p.rows.reverse[15 - b.toNat / 16]?).getD "").toList

/-- The character that a byte stands for, if it stands for one. -/
def char? (p : CodePage) (b : UInt8) : Option Char :=
  match p.row b with
  | [] => some (Char.ofNat b.toNat)
  | cs => cs[b.toNat % 16]?.filter (· ≠ gap)

/-- The characters of a byte string, if each byte stands for one. -/
def decode? (p : CodePage) (bs : List UInt8) : Option (List Char) :=
  bs.mapM p.char?

end CodePage

end Text

end Attest
