import Attest.Text.Multibyte.Chinese
import Attest.Text.Multibyte.Japanese
import Attest.Text.Multibyte.Korean

/-!
# Encodings with Switches

Encodings of seven binary digits that switch between sets of characters.

A set is put into one of three places by an escape sequence, and bytes stand for
characters of the set in the first place. Where shifts are in use, a shift out turns to
the second place, until a shift in or the end of the line. The third place is for one
character at a time. Each encoding has its own choice of sets and of these means. An
escape sequence of another kind is passed through as it is.

There is also an older and simpler form with a single set, which is switched by pairs
that begin with a tilde.

## Main definitions

* `Switched.CodedSet`: The sets.
* `Switched.Repertoire`: What an encoding allows.
* `Switched.decoder`: The decoder of an encoding.
* `Switched.tilde`: The decoder of the simpler form.
-/

namespace Attest

namespace Text

namespace Switched

/-- The sets that a switch may ask for. -/
inductive CodedSet where
  | ascii
  | roman
  | katakana
  | latin
  | greek
  | jisx0208
  /-- The same under its older mark. -/
  | jisx0208Old
  | jisx0212
  | gb2312
  | ksx1001
  | firstPlane (edition : Japanese.Edition)
  | secondPlane
deriving DecidableEq

namespace CodedSet

/-- The set with one byte for a character that has a mark. -/
def ofSingleMark? (mark : UInt8) : Option CodedSet :=
  if mark = 0x41 then some latin
  else if mark = 0x42 then some ascii
  else if mark = 0x46 then some greek
  else if mark = 0x49 then some katakana
  else if mark = 0x4a then some roman
  else none

/-- The set with two bytes for a character that has a mark. -/
def ofDoubleMark? (mark : UInt8) : Option CodedSet :=
  if mark = 0x40 then some jisx0208Old
  else if mark = 0x41 then some gb2312
  else if mark = 0x42 then some jisx0208
  else if mark = 0x43 then some ksx1001
  else if mark = 0x44 then some jisx0212
  else if mark = 0x4f then some (firstPlane .first)
  else if mark = 0x50 then some secondPlane
  else if mark = 0x51 then some (firstPlane .revised)
  else none

/-- The characters of a code of two bytes in a set. -/
def double? : CodedSet → Nat → Option (List Char)
  | jisx0208, code | jisx0208Old, code => Charsets.jisx0208.text? code
  | jisx0212, code => Charsets.jisx0212.text? code
  | gb2312, code => Charsets.gb2312.text? code
  | ksx1001, code => Charsets.ksx1001.text? code
  | firstPlane edition, code => Japanese.firstPlane? edition code
  | secondPlane, code => Japanese.secondPlane? .revised code
  | _, _ => none

/-- The characters that bytes stand for in a set, and how many bytes were read behind
    the first one. The latin and the greek set are for the third place only. -/
def read? : CodedSet → UInt8 → List UInt8 → Option (List Char × Nat)
  | ascii, b, _ => some ([Char.ofNat b.toNat], 0)
  | roman, b, _ => (Japanese.roman? b).map fun c => ([c], 0)
  | katakana, b, _ => (Japanese.katakana? (b + 0x80)).map fun c => ([c], 0)
  | latin, _, _ | greek, _, _ => none
  | s, b, c :: _ => (s.double? (codeOf b c)).map fun cs => (cs, 1)
  | _, _, [] => none

/-- The greek letters and signs with the highest digit set. -/
def greekHalf : Charset :=
  ⟨[.row 0xa0 "\u00a0‘’£\ufffd\ufffd¦§¨©\ufffd«¬\u00ad\ufffd―°±²³΄΅Ά·ΈΉΊ»Ό½ΎΏ",
    .row 0xc0 "ΐΑΒΓΔΕΖΗΘΙΚΛΜΝΞΟΠΡ\ufffdΣΤΥΦΧΨΩΪΫάέήί",
    .row 0xe0 "ΰαβγδεζηθικλμνξοπρςστυφχψωϊϋόύώ"]⟩

/-- The character that a byte stands for in the set in the third place. For the greek set
    the highest digit is turned over. -/
def readThird (s : CodedSet) (b : UInt8) : Except Refusal (List Char) :=
  match s with
  | ascii => Refusal.unless ((ascii? b).map fun c => [c])
  | latin => if b < 0x80 then .ok [Char.ofNat (b.toNat + 0x80)] else .error .badBytes
  | greek =>
    let n := (b.toNat + 0x80) % 0x100
    if n < 0xa0 then .ok [Char.ofNat n] else Refusal.unless (greekHalf.text? n)
  | _ => .error .unusableSet

end CodedSet

/-- What an encoding allows. -/
structure Repertoire where
  /-- The sets beside ASCII. -/
  sets : List CodedSet
  /-- Whether shifts are in use. -/
  hasShifts : Bool
  /-- Whether the third place is in use. -/
  hasThird : Bool
  /-- Whether an announcement may stand in front of an escape sequence. -/
  hasAnnouncement : Bool

/-- The places of the sets and what is in use. -/
structure Mode where
  first : CodedSet
  second : CodedSet
  third : CodedSet
  /-- Whether the second place is in use. -/
  isShifted : Bool
  /-- Whether the bytes of a sequence of another kind are being passed through. -/
  isPassing : Bool

/-- The mode at the beginning of a text. -/
def Mode.initial : Mode :=
  ⟨.ascii, .ascii, .ascii, false, false⟩

/-- The places for a set. -/
inductive Place where
  | first
  | second
  | third

/-- A set put into a place. -/
def Mode.put (m : Mode) (s : CodedSet) : Place → Mode
  | .first => { m with first := s }
  | .second => { m with second := s }
  | .third => { m with third := s }

/-- The byte of an escape. -/
def escape : UInt8 := 0x1b

/-- Whether a byte ends an escape sequence. -/
def isFinal (b : UInt8) : Bool :=
  0x40 ≤ b && b ≤ 0x5a

/-- Whether a byte behind an escape belongs to a sequence that asks for a set. -/
def asksForSet (b : UInt8) : Bool :=
  b = 0x24 || b = 0x26 || b = 0x28 || b = 0x29 || b = 0x2e

/-- What the bytes behind an escape ask for: a set, its place, and the number of bytes.
    Two bytes are a place and a mark, where a dollar stands for two bytes in the first
    place; three bytes are a dollar, a place and a mark. Two bytes that have neither form
    count as an announcement, if an escape sequence for JIS X 0208 follows. -/
def request? (r : Repertoire) : List UInt8 → Option (CodedSet × Place × Nat)
  | place :: mark :: rest =>
    -- An announcement looks like a short sequence, but asks for nothing by itself.
    let announces := r.hasAnnouncement && place = 0x26 && mark = 0x40
    if isFinal mark && !announces then
      if place = 0x24 then (CodedSet.ofDoubleMark? mark).map (·, .first, 2)
      else if place = 0x28 then (CodedSet.ofSingleMark? mark).map (·, .first, 2)
      else if place = 0x29 then (CodedSet.ofSingleMark? mark).map (·, .second, 2)
      else if place = 0x2e && r.hasThird then (CodedSet.ofSingleMark? mark).map (·, .third, 2)
      else none
    else match place, mark, rest with
      | _, _, 0x1b :: 0x24 :: 0x42 :: _ =>
        if r.hasAnnouncement then some (.jisx0208, .first, 5) else none
      | 0x24, 0x28, mark :: _ => (CodedSet.ofDoubleMark? mark).map (·, .first, 3)
      | 0x24, 0x29, mark :: _ => (CodedSet.ofDoubleMark? mark).map (·, .second, 3)
      | _, _, _ => none
  | _ => none

/-- Reading an escape. -/
def readEscape (r : Repertoire) (m : Mode) (bs : List UInt8) : Except Refusal (Reading Mode) :=
  match bs with
  | [] => .error .badBytes
  | b :: rest =>
    if asksForSet b then
      match request? r bs with
      | some (s, place, behind) =>
        if s = .ascii || s ∈ r.sets then .ok ⟨[], behind, m.put s place⟩ else .error .badBytes
      | none => .error .badBytes
    else if r.hasThird && b = 0x4e then
      match rest with
      | c :: _ => do .ok ⟨pointsOf (← m.third.readThird c), 2, m⟩
      | [] => .error .badBytes
    -- A sequence of another kind is text, and so are its bytes up to the last one.
    else .ok ⟨[escape.toNat], 0, { m with isPassing := true }⟩

/-- The rule by which one piece is read. -/
def reader (r : Repertoire) : Reader Mode :=
  fun m b bs =>
    if m.isPassing then .ok ⟨[b.toNat], 0, { m with isPassing := !isFinal b }⟩
    else if b = escape then readEscape r m bs
    else if b = 0x0f && r.hasShifts then .ok ⟨[], 0, { m with isShifted := false }⟩
    else if b = 0x0e && r.hasShifts then .ok ⟨[], 0, { m with isShifted := true }⟩
    else if b = 0x0a then .ok ⟨[b.toNat], 0, { m with isShifted := false }⟩
    else if b < 0x20 then .ok ⟨[b.toNat], 0, m⟩
    else if 0x80 ≤ b then .error .badBytes
    else
      let inUse := if m.isShifted then m.second else m.first
      Refusal.unless ((inUse.read? b bs).map fun (cs, behind) => ⟨pointsOf cs, behind, m⟩)

/-- The decoder of an encoding with switches. -/
def decoder (r : Repertoire) : Decoder :=
  (reader r).points .initial

/-- A Japanese encoding with some sets. -/
def japanese (sets : List CodedSet) : Repertoire :=
  ⟨sets, false, false, true⟩

/-- The basic Japanese encoding. -/
def iso2022Jp : Repertoire :=
  japanese [.jisx0208, .jisx0208Old, .roman]

/-- The basic encoding with a supplement. -/
def iso2022Jp1 : Repertoire :=
  japanese [.jisx0208, .jisx0208Old, .roman, .jisx0212]

/-- The encoding that is meant for several languages. -/
def iso2022Jp2 : Repertoire :=
  { japanese [.jisx0208, .jisx0208Old, .roman, .jisx0212, .gb2312, .ksx1001, .latin, .greek] with
    hasThird := true }

/-- The encoding of JIS X 0213 in one of its editions. -/
def iso2022Jisx0213 (edition : Japanese.Edition) : Repertoire :=
  japanese [.jisx0208, .firstPlane edition, .secondPlane]

/-- The encoding with narrow katakana. -/
def iso2022JpExt : Repertoire :=
  japanese [.jisx0208, .jisx0208Old, .roman, .jisx0212, .katakana]

/-- The Korean encoding. -/
def iso2022Kr : Repertoire :=
  ⟨[.ksx1001], true, false, false⟩

/-- The rule of the simpler form, where the state says whether the set of GB 2312 is in
    use. A tilde with a brace turns it on or off; a tilde with another tilde is one, and
    with the end of a line is nothing. -/
def tildeReader : Reader Bool :=
  fun inUse b bs =>
    match inUse, b, bs with
    | false, 0x7e, 0x7e :: _ => .ok ⟨[b.toNat], 1, false⟩
    | false, 0x7e, 0x7b :: _ => .ok ⟨[], 1, true⟩
    | false, 0x7e, 0x0a :: _ => .ok ⟨[], 1, false⟩
    | true, 0x7e, 0x7d :: _ => .ok ⟨[], 1, false⟩
    | _, 0x7e, _ => .error .badBytes
    | false, b, _ => Refusal.unless ((ascii? b).map fun c => ⟨[c.toNat], 0, false⟩)
    | true, b, c :: _ =>
      Refusal.unless ((Charsets.gb2312.text? (codeOf b c)).map fun cs => ⟨pointsOf cs, 1, true⟩)
    | true, _, [] => .error .badBytes

/-- The decoder of the simpler form. -/
def tilde : Decoder :=
  tildeReader.points false

end Switched

end Text

end Attest
