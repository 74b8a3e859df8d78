/-!
# Unicode Transformation Formats

Encodings that have room for all characters.

A character is a code point below `0x110000` that is no surrogate. The formats of 32
and 16 binary digits write it in units of four or two bytes; the latter writes a
character that has no room in one unit as a pair of surrogates. The order of the bytes
in a unit may be said by a mark in front of the text, and is otherwise the little one.
The format of 8 binary digits is the one that texts themselves are kept in.

## Main definitions

* `ByteOrder`: The order of the bytes in a unit.
* `utf8?`, `utf16?`, `utf32?`: The characters of a byte string in a format.
* `Marked.utf8?`, `Marked.utf16?`, `Marked.utf32?`: The same, behind a mark.
-/

namespace Attest

namespace Text

/-- The order of the bytes in a unit. -/
inductive ByteOrder where
  /-- The last byte is worth most. -/
  | little
  /-- The first byte is worth most. -/
  | big
deriving DecidableEq

/-- The number that the bytes of a unit stand for. -/
def ByteOrder.number (order : ByteOrder) (bs : List UInt8) : Nat :=
  let bs := match order with
    | little => bs.reverse
    | big => bs
  bs.foldl (fun n b => 256 * n + b.toNat) 0

/-- The character with a code point, if there is one. -/
def charOf? (n : Nat) : Option Char :=
  if n.isValidChar then some (Char.ofNat n) else none

/-- The characters of a byte string in units of one to four bytes for a character. -/
def utf8? (bs : List UInt8) : Option (List Char) :=
  (String.fromUTF8? ⟨bs.toArray⟩).map String.toList

/-- The units of two bytes of a byte string, if none is left over. -/
def units16? (order : ByteOrder) : List UInt8 → Option (List Nat)
  | [] => some []
  | a :: b :: bs => do some (order.number [a, b] :: (← units16? order bs))
  | [_] => none

/-- The units of four bytes of a byte string, if none is left over. -/
def units32? (order : ByteOrder) : List UInt8 → Option (List Nat)
  | [] => some []
  | a :: b :: c :: d :: bs => do some (order.number [a, b, c, d] :: (← units32? order bs))
  | _ => none

/-- Whether a unit is the first of a pair of surrogates. -/
def isHighSurrogate (n : Nat) : Bool :=
  0xd800 ≤ n && n < 0xdc00

/-- Whether a unit is the second of a pair of surrogates. -/
def isLowSurrogate (n : Nat) : Bool :=
  0xdc00 ≤ n && n < 0xe000

/-- The characters of units, where two surrogates together stand for one. -/
def paired? : List Nat → Option (List Char)
  | [] => some []
  | m :: ns =>
    if isHighSurrogate m then
      match ns with
      | n :: ns => do
        if isLowSurrogate n then
          let c ← charOf? (0x10000 + (m - 0xd800) * 0x400 + (n - 0xdc00))
          some (c :: (← paired? ns))
        else none
      | [] => none
    else do
      let c ← charOf? m
      some (c :: (← paired? ns))

/-- The characters of a byte string in units of two bytes. -/
def utf16? (order : ByteOrder) (bs : List UInt8) : Option (List Char) := do
  paired? (← units16? order bs)

/-- The characters of a byte string in units of four bytes. -/
def utf32? (order : ByteOrder) (bs : List UInt8) : Option (List Char) := do
  (← units32? order bs).mapM charOf?

namespace Marked

/-- The same as without a mark, where one in front is passed over. -/
def utf8? : List UInt8 → Option (List Char)
  | 0xef :: 0xbb :: 0xbf :: bs => Text.utf8? bs
  | bs => Text.utf8? bs

/-- The characters of units of two bytes, in the order that the mark in front says. -/
def utf16? : List UInt8 → Option (List Char)
  | 0xff :: 0xfe :: bs => Text.utf16? .little bs
  | 0xfe :: 0xff :: bs => Text.utf16? .big bs
  | bs => Text.utf16? .little bs

/-- The characters of units of four bytes, in the order that the mark in front says. -/
def utf32? : List UInt8 → Option (List Char)
  | 0xff :: 0xfe :: 0 :: 0 :: bs => Text.utf32? .little bs
  | 0 :: 0 :: 0xfe :: 0xff :: bs => Text.utf32? .big bs
  | bs => Text.utf32? .little bs

end Marked

end Text

end Attest
