import Attest.Text.Lowercase

/-!
# Universally Unique Identifiers

Texts of the form `xxxxxxxx-xxxx-Vxxx-Nxxx-xxxxxxxxxxxx`, all digits hexadecimal, with
a version digit `V` from one to five and a variant digit `N` from eight to eleven. The
form has one character class for each of its 36 places, and a text has the form if it
has as many characters, each in its class. The classes hold small letters only, but case
does not count, so what has to be in the class is the character that a character is taken
for.

## Main definitions

* `Uuid.form`: The class of each place.
* `isUuid`: Whether a text has the form.
* `isHexText`: Whether a text holds hexadecimal digits only.
-/

namespace Attest

/-- Whether a character is a hexadecimal digit, in either case. -/
def isHexDigit (c : Char) : Bool :=
  ('0' ≤ c && c ≤ '9') || ('a' ≤ c && c ≤ 'f') || ('A' ≤ c && c ≤ 'F')

namespace Uuid

/-- Whether a character is a hexadecimal digit, and no capital letter. -/
def isDigit (c : Char) : Bool :=
  ('0' ≤ c && c ≤ '9') || ('a' ≤ c && c ≤ 'f')

/-- Whether a character is a version digit. -/
def isVersion (c : Char) : Bool :=
  '1' ≤ c && c ≤ '5'

/-- Whether a character is a variant digit, and no capital letter. -/
def isVariant (c : Char) : Bool :=
  c = '8' || c = '9' || c = 'a' || c = 'b'

/-- The character class of each place of the form. -/
def form : List (Char → Bool) :=
  let digits (n : Nat) : List (Char → Bool) := List.replicate n isDigit
  let hyphen : Char → Bool := (· = '-')
  digits 8 ++ hyphen :: (digits 4 ++ hyphen :: (isVersion :: digits 3 ++ hyphen ::
    (isVariant :: digits 3 ++ hyphen :: digits 12)))

/-- Whether a text has as many characters as there are classes, each in its class, where
    case does not count. -/
def fits : List (Char → Bool) → List Char → Bool
  | [], [] => true
  | p :: ps, c :: cs => p (Text.caseless c) && fits ps cs
  | _, _ => false

end Uuid

/-- Whether a text has the form of an identifier. -/
def isUuid (s : String) : Bool :=
  Uuid.fits Uuid.form s.toList

/-- Whether a text holds hexadecimal digits only; the empty text does. -/
def isHexText (s : String) : Bool :=
  s.toList.all isHexDigit

end Attest
