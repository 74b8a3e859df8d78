/-!
# Decoders

What becomes of a byte string that is read as text.

A decoder gives the code points of the text. They are numbers and not characters,
because a few formats can spell a surrogate that stands alone, which is no character.

## Main definitions

* `Refusal`: Why a byte string is no text.
* `Decoder`: A way to read byte strings.
* `Decoder.ofCharacters`: The decoder that a partial function to characters is.
-/

namespace Attest

namespace Text

/-- Why a byte string is no text. -/
inductive Refusal where
  /-- The bytes stand for nothing. -/
  | badBytes
  /-- The bytes stand for code points, but not for a text that the format allows. -/
  | badText
  /-- The bytes ask for a set of characters that cannot be used in that way. -/
  | unusableSet
deriving DecidableEq

/-- A way to read byte strings as code points. -/
abbrev Decoder := List UInt8 → Except Refusal (List Nat)

/-- A result, where none means that the bytes stand for nothing. -/
def Refusal.unless {α : Type} : Option α → Except Refusal α
  | some a => .ok a
  | none => .error badBytes

/-- The decoder that a partial function to characters is. -/
def Decoder.ofCharacters (f : List UInt8 → Option (List Char)) : Decoder :=
  fun bs => Refusal.unless ((f bs).map (·.map Char.toNat))

end Text

end Attest
