/-!
# Hangul

The syllables of the Korean alphabet.

A syllable is an initial consonant, a vowel, and perhaps a final consonant. There is a
character for each of the 19 · 21 · 28 syllables, in the order of their letters, and one
for each letter that stands alone.

## Main definitions

* `Hangul.syllable`: The character of a syllable.
* `Hangul.initials`, `Hangul.vowels`, `Hangul.finals`: The letters, in order.
-/

namespace Attest

namespace Text

namespace Hangul

/-- The initial consonants. -/
def initials : List Char :=
  "ㄱㄲㄴㄷㄸㄹㅁㅂㅃㅅㅆㅇㅈㅉㅊㅋㅌㅍㅎ".toList

/-- The vowels. -/
def vowels : List Char :=
  "ㅏㅐㅑㅒㅓㅔㅕㅖㅗㅘㅙㅚㅛㅜㅝㅞㅟㅠㅡㅢㅣ".toList

/-- The final consonants. -/
def finals : List Char :=
  "ㄱㄲㄳㄴㄵㄶㄷㄹㄺㄻㄼㄽㄾㄿㅀㅁㅂㅄㅅㅆㅇㅈㅊㅋㅌㅍㅎ".toList

/-- The first syllable. -/
def firstSyllable : Nat := 0xac00

/-- How many syllables there are. -/
def syllableCount : Nat := 19 * 21 * 28

/-- The character of a syllable, by the numbers of its initial, its vowel and its final,
    where 0 is no final. -/
def syllable (initial vowel final : Nat) : Char :=
  Char.ofNat (firstSyllable + (initial * 21 + vowel) * 28 + final)

/-- Whether a code point is a syllable. -/
def isSyllable (n : Nat) : Bool :=
  firstSyllable ≤ n && n < firstSyllable + syllableCount

end Hangul

end Text

end Attest
