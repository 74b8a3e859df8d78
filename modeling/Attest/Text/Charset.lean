import Attest.Text.CodePage

/-!
# Sets of Characters by Code

Tables of characters that are too many for one byte each.

A code is the number that two bytes, or a row and a column, make up. A table lists its
characters in parts: rows of characters with successive codes, spans in which the
characters succeed each other too, and the odd code that stands for two characters. As
in code pages, the replacement character marks the place of a code that stands for
nothing.

## Main definitions

* `Charset`: A table.
* `Charset.text?`: The characters that a code stands for.
-/

namespace Attest

namespace Text

/-- A part of a table of characters. -/
inductive Charset.Part where
  /-- Characters of successive codes, from the given one. -/
  | row (code : Nat) (characters : String)
  /-- Successive characters of successive codes, from the given ones. -/
  | span (code count character : Nat)
  /-- The characters that one code stands for together. -/
  | several (code : Nat) (characters : String)

/-- A table of characters. -/
structure Charset where
  /-- The parts, in the order of their codes. -/
  parts : List Charset.Part

namespace Charset

/-- The characters that a code stands for in a part. -/
def Part.text? : Part → Nat → Option (List Char)
  | row first characters, code =>
    if first ≤ code then
      (characters.toList[code - first]?.filter (· ≠ CodePage.gap)).map fun c => [c]
    else none
  | span first count character, code =>
    if first ≤ code ∧ code < first + count then some [Char.ofNat (character + (code - first))]
    else none
  | several own characters, code => if code = own then some characters.toList else none

/-- The characters of a part that have a code of their own. -/
def Part.characters : Part → List Char
  | row _ characters => characters.toList.filter (· ≠ CodePage.gap)
  | span _ count character => (List.range count).map fun i => Char.ofNat (character + i)
  | several .. => []

/-- The characters that a code stands for, if it stands for any. -/
def text? (s : Charset) (code : Nat) : Option (List Char) :=
  s.parts.findSome? (·.text? code)

/-- The characters that have a code of their own, in the order of the codes. -/
def characters (s : Charset) : List Char :=
  s.parts.flatMap Part.characters

end Charset

end Text

end Attest
