import Attest.Text.Decoder

/-!
# Readers

Decoders that go through a byte string piece by piece.

A reader looks at the first byte, and at those behind it if the first one asks for
them, gives what they stand for, and says how many it has read. What later bytes mean
may depend on earlier ones, so it also gives a state. A byte string is decoded by
reading until nothing is left; each piece is at least one byte, so that comes to an end.

## Main definitions

* `Reading`: What is read at the head of a byte string.
* `Reader`: The rule by which one piece is read.
* `Reader.points`: The code points of a byte string.
* `Reader.pairs`: The reader of an encoding with one or two bytes for a character.
-/

namespace Attest

namespace Text

/-- What is read at the head of a byte string. -/
structure Reading (σ : Type) where
  /-- The code points that were read. -/
  points : List Nat
  /-- How many bytes were read behind the first one. -/
  behind : Nat
  /-- The state in which reading goes on. -/
  state : σ

/-- The rule by which one piece is read, from a state, the first byte and those behind. -/
abbrev Reader (σ : Type) := σ → UInt8 → List UInt8 → Except Refusal (Reading σ)

/-- The code points of characters. -/
def pointsOf (cs : List Char) : List Nat :=
  cs.map Char.toNat

/-- A byte of ASCII as a character. -/
def ascii? (b : UInt8) : Option Char :=
  if b < 0x80 then some (Char.ofNat b.toNat) else none

/-- The code that two bytes make up. -/
def codeOf (b c : UInt8) : Nat :=
  256 * b.toNat + c.toNat

namespace Reader

/-- The code points of a byte string, from a state on. -/
def points {σ : Type} (r : Reader σ) (state : σ) : List UInt8 → Except Refusal (List Nat)
  | [] => .ok []
  | b :: bs => do
    let piece ← r state b bs
    return piece.points ++ (← r.points piece.state (bs.drop piece.behind))
termination_by bs => bs.length
decreasing_by simp only [List.length_drop, List.length_cons]; omega

/-- A rule without states, where the result is characters and the number of bytes that
    were read behind the first one. -/
def stateless (f : UInt8 → List UInt8 → Option (List Char × Nat)) : Reader Unit :=
  fun _ b bs => Refusal.unless ((f b bs).map fun (cs, behind) => ⟨pointsOf cs, behind, ()⟩)

/-- The decoder of a rule without states. -/
def decoder (r : Reader Unit) : Decoder :=
  r.points ()

/-- The reader of an encoding with one or two bytes for a character: the first byte is
    the character itself, or it makes up a code with the next one. -/
def pairs (single : UInt8 → Option Char) (double : Nat → Option (List Char)) : Reader Unit :=
  stateless fun b bs =>
    match single b, bs with
    | some c, _ => some ([c], 0)
    | none, b' :: _ => (double (codeOf b b')).map fun cs => (cs, 1)
    | none, [] => none

end Reader

end Text

end Attest
