import Attest.Text.Pattern
import Attest.Text.Letter
import Attest.Text.Mark
import Attest.Text.Numeral

/-!
# Email Addresses

Two grammars for email addresses.

The plain grammar admits ASCII only and is a regular pattern: a local part of
atoms joined by single dots, an at sign, and a domain whose last label starts
with a letter. The international grammar admits letters, marks and numerals of
every script on both sides and is stated on the parts of the address instead:
the local part between its dots, the domain between its labels. Both are bounded
in the same way. An address has at most 254 characters, its local part at most
64, and every label of its domain at most 63.

## Main definitions

* `Email.pattern`: The plain grammar.
* `Email.isInternational`: The international grammar.
* `Email.withinLimits`: The bounds on the lengths.
* `isEmail`: Whether a text is an address of the plain or international grammar.
-/

namespace Attest

namespace Email

/-- The punctuation marks that a local part may hold, the dot apart. -/
def punctuation : List Char :=
  ['-', '!', '#', '$', '%', '&', '\x27', '*', '+', '/', '=', '?', '^', '_', '\x60', '\x7b', '|',
    '\x7d', '~']

/-- Whether a character may stand in the local part of a plain address. -/
def isAtom (c : Char) : Bool :=
  c.isAlphanum || punctuation.contains c

/-- Whether a character may open the local part: an atom, but no grave accent. -/
def isOpening (c : Char) : Bool :=
  isAtom c && c ≠ '\x60'

open Pattern in
/-- The plain local part: atoms, with at most one dot between two of them. -/
def localPattern : Pattern :=
  seq (one isOpening) (many (seq (maybe (char '.')) (one isAtom)))

open Pattern in
/-- The plain domain: letters and digits with hyphens and dots between them, where
    a dot is not followed by a hyphen, and a last label of at least two characters
    that opens with a letter and has no two hyphens side by side. -/
def domainPattern : Pattern :=
  sequence [one Char.isAlphanum,
    many (sequence [many (char '-'), maybe (char '.'), one Char.isAlphanum]),
    char '.', one Char.isAlpha,
    oneOrMore (seq (maybe (char '-')) (one Char.isAlphanum))]

open Pattern in
/-- The plain grammar. -/
def pattern : Pattern :=
  sequence [localPattern, char '@', domainPattern]

/-- Whether a character is a letter, a mark or a numeral of some script. -/
def isWordChar (c : Char) : Bool :=
  Text.isLetter c || Text.isMark c || Text.isNumeral c

/-- Split a text at every occurrence of a character. -/
def splitAt (separator : Char) : List Char → List (List Char)
  | [] => [[]]
  | c :: cs =>
    match splitAt separator cs with
    | part :: parts => if c = separator then [] :: part :: parts else (c :: part) :: parts
    | [] => [[c]]

/-- Split a text at the first at sign. -/
def halves (cs : List Char) : List Char × List Char :=
  (cs.takeWhile (· ≠ '@'), (cs.dropWhile (· ≠ '@')).drop 1)

/-- Whether two dots stand side by side. -/
def hasDoubleDot : List Char → Bool
  | a :: b :: cs => (a = '.' && b = '.') || hasDoubleDot (b :: cs)
  | _ => false

/-- The international local part: word characters, punctuation and dots, where no
    dot stands at either end or next to another one. -/
def isInternationalLocal (cs : List Char) : Bool :=
  cs ≠ [] && cs.head? ≠ some '.' && cs.getLast? ≠ some '.' && !hasDoubleDot cs &&
    cs.all fun c => c = '.' || punctuation.contains c || isWordChar c

/-- A label of an international domain: word characters and hyphens, with no
    hyphen at either end. -/
def isInternationalLabel (cs : List Char) : Bool :=
  cs ≠ [] && cs.head? ≠ some '-' && cs.getLast? ≠ some '-' &&
    cs.all fun c => c = '-' || isWordChar c

/-- The international domain: at least two labels, the last of them of at least
    two characters and opening with a letter. -/
def isInternationalDomain (cs : List Char) : Bool :=
  let labels := splitAt '.' cs
  2 ≤ labels.length && labels.all isInternationalLabel &&
    match labels.getLast? with
    | some last => 2 ≤ last.length && (last.head?.any Text.isLetter)
    | none => false

/-- The international grammar. -/
def isInternational (cs : List Char) : Bool :=
  cs.count '@' = 1 && isInternationalLocal (halves cs).1 && isInternationalDomain (halves cs).2

/-- The bounds on the lengths of an address, its local part and its labels. -/
def withinLimits (cs : List Char) : Bool :=
  0 < cs.length && cs.length ≤ 254 && (halves cs).1.length ≤ 64 &&
    (splitAt '.' (halves cs).2).all fun label => label.length ≤ 63

end Email

/-- Whether a text is an email address, of the international grammar if that is
    allowed and of the plain one otherwise. -/
def isEmail (international : Bool) (s : String) : Bool :=
  Email.withinLimits s.toList &&
    if international then Email.isInternational s.toList else Email.pattern.accepts s.toList

end Attest
