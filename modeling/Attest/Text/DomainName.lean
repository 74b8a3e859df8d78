import Attest.Text.Composition
import Attest.Text.LabelCharacter
import Attest.Text.Punycode

/-!
# Domain Names

Names of labels between points, in which a label may spell out another text.

A label that begins with a mark of four letters is in Punycode. It must be the one way
to write its text: the text has a character beyond ASCII, is prepared but for the size
of its letters, and the label has at most 63 letters. Other labels are in ASCII.

## Main definitions

* `DomainName.isPrepared`: Whether a text is as labels are prepared.
* `DomainName.decoder`: The decoder.
-/

namespace Attest

namespace Text

namespace DomainName

/-- The mark of a label in Punycode. -/
def mark : List UInt8 :=
  [0x78, 0x6e, 0x2d, 0x2d]

/-- The most letters of a label. -/
def mostLetters : Nat := 63

/-- A code point with a capital of ASCII made small. -/
def lowered (n : Nat) : Nat :=
  if 0x41 ≤ n ∧ n ≤ 0x5a then n + 0x20 else n

/-- Whether the direction of a text is clear. A text that has a letter from right to left
    has none of the other direction, and begins and ends with such a letter. -/
def hasDirection (text : List Nat) : Bool :=
  !text.any isRightToLeft ||
    (!text.any isLeftToRight && text.head?.any isRightToLeft && text.getLast?.any isRightToLeft)

/-- Whether a text is as labels are prepared, where capitals of ASCII count as small. -/
def isPrepared (text : List Nat) : Bool :=
  let text := text.map lowered
  text.all (fun n => n < 0x80 || staysInLabel n) && isComposed text && hasDirection text

/-- Whether a text must be written in Punycode. -/
def needsPunycode (text : List Nat) : Bool :=
  text.any (0x80 ≤ ·)

/-- Whether the last hyphen has nothing in front of it. A text without ASCII is written
    without that hyphen. -/
def hasIdleHyphen (bs : List UInt8) : Bool :=
  (Punycode.split bs).1.isEmpty && bs.head? = some 0x2d

/-- The text of a label behind the mark. The text does not begin with the mark itself. -/
def marked (bs : List UInt8) : Except Refusal (List Nat) := do
  let text ← Punycode.decoder bs
  if needsPunycode text && isPrepared text && !hasIdleHyphen bs &&
      !(mark.map UInt8.toNat).isPrefixOf (text.map lowered) &&
      mark.length + bs.length ≤ mostLetters then
    .ok text
  else .error .badText

/-- The text of a label. -/
def label (bs : List UInt8) : Except Refusal (List Nat) :=
  if mark.isPrefixOf bs then marked (bs.drop mark.length)
  else if bs.all (· < 0x80) then .ok (bs.map UInt8.toNat)
  else .error .badBytes

/-- The byte of a point. -/
def point : UInt8 := 0x2e

/-- The text of the labels of a name, where `front` is what stands in front of the name in
    the same label, turned around. -/
def labels (front : List UInt8) : List UInt8 → Except Refusal (List Nat)
  | [] => label front.reverse
  | b :: bs => do
    if b = point then
      let first ← label front.reverse
      return first ++ point.toNat :: (← labels [] bs)
    else labels (b :: front) bs

/-- The decoder of the format. -/
def decoder : Decoder :=
  labels []

end DomainName

end Text

end Attest
