import Attest.Context
import Attest.Format.Email
import Attest.Format.Uuid
import Attest.Format.ZonedDateTime

/-!
# Primitive Checks

The checks at the leaves: type tests, text formats, and whether there is a value
at all. Each is a total test on values, with the words to report it in.

## Main definitions

* `Primitive`: The nine primitive checks.
* `Primitive.holds`: The test.
* `Primitive.complaint`: What is wrong with a value that fails it.
* `Primitive.run`: The check as an assertion.
-/

namespace Attest

namespace Value

/-- Whether a value is a text of a certain form. -/
def isTextWith (v : Value) (form : String → Bool) : Bool :=
  match v with
  | text s => form s
  | _ => false

end Value

/-- The primitive checks. -/
inductive Primitive where
  | string
  | number
  | boolean
  | uuid
  | hexString
  | email
  | date
  | isoDateTime
  | nonNullable
deriving DecidableEq

namespace Primitive

/-- Whether a value passes a check. -/
def holds : Primitive → Value → Bool
  | string, v => v.isText
  | number, v => v.isNumber
  | boolean, v => v.isBoolean
  | uuid, v => v.isTextWith isUuid
  | hexString, v => v.isTextWith isHexText
  | email, v => v.isTextWith (isEmail false)
  | date, v => v.isDateTime
  | isoDateTime, v => v.isTextWith isZonedDateTime
  | nonNullable, v => v.isPresent

/-- What is wrong with a value that fails a check. -/
def complaint : Primitive → Value → String
  | string, _ => "Not a string"
  | number, _ => "Not a number"
  | boolean, _ => "Not a boolean"
  | uuid, _ => "Invalid uuid"
  | hexString, _ => "Invalid hex string"
  | email, _ => "Invalid email"
  | date, _ => "Invalid Date"
  | isoDateTime, _ => "Invalid ISO-8601 date-time"
  | nonNullable, .undefined => "Value is undefined"
  | nonNullable, _ => "Value is null"

/-- The check as an assertion: it passes, or it fails with the place and the value. -/
def run (p : Primitive) (v : Value) (c : Context) : Check Unit :=
  if p.holds v then pure () else Check.fail (c.explain (p.complaint v) v) []

end Primitive

end Attest
