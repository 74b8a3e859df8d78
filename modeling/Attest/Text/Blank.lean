import Attest.Text.Ranges

/-!
# Blank Characters

The characters that count as white space around a number: the controls from tab
to carriage return, the space and the next-line control, and the space separators of
all scripts. The four separator controls are not among them.

## Main definitions

* `isBlank`: Whether a character is one of them.
* `trimmed`: Characters without the blank ones around them.
-/

namespace Attest

namespace Text

/-- The ranges of the blank characters. -/
def blankRanges : Ranges :=
  [(0x0009, 0x000d), (0x0020, 0x0020), (0x0085, 0x0085), (0x00a0, 0x00a0), (0x1680, 0x1680),
    (0x2000, 0x200a), (0x2028, 0x2029), (0x202f, 0x202f), (0x205f, 0x205f), (0x3000, 0x3000)]

/-- Whether a character is blank. -/
def isBlank (c : Char) : Bool :=
  inRanges blankRanges c

/-- Characters without the blank ones around them. -/
def trimmed (cs : List Char) : List Char :=
  ((cs.dropWhile isBlank).reverse.dropWhile isBlank).reverse

end Text

end Attest
