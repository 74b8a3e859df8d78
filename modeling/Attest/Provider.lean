import Attest.Outcome
import Attest.Value.Conversion

/-!
# Error Providers

Where messages come from: a text, or a computation that is run only if there is
something to report. A plain value may be offered too; it is called like a function.

A provider may give a message or a whole exception. Two ways of reading one
coexist. *Evaluating* it keeps an exception as it is, to be raised; reading its
*message* renders whatever it gave as text. All failures end in `Check.fail`, which
raises an exception unchanged and hands a message to the error factory.

## Main definitions

* `Provider`: A text, a computation, or a plain value.
* `Provider.evaluate`: What a provider gives.
* `Provider.message`: What a provider gives, as text.
* `Check.fail`: Fail with a message or an exception.
* `Check.assertTruthy`: Fail unless a value counts as true.
-/

namespace Attest

/-- A source of messages. -/
inductive Provider where
  /-- A message. -/
  | text (s : String)
  /-- A computation that gives a message, an exception, or anything else. -/
  | deferred (evaluate : Check Value)
  /-- A plain value, which is called. -/
  | value (v : Value)

/-- Call a value with no arguments. -/
def Value.callEmpty : Value → Check Value
  | .function .. | .callable .. => pure .null
  | .builtin c | .applied c _ => pure c.empty
  | v => Check.raise (.fault (.notCallable v.className))

namespace Provider

/-- The provider that a value is: nothing for the value that stands for nothing, a
    message for a text, and any other value as it is. -/
def ofValue : Value → Option Provider
  | .null => none
  | .text s => some (text s)
  | v => some (value v)

/-- A provider as a value. A computation is a function without a name. -/
def toValue : Option Provider → Value
  | none => .null
  | some (text s) => s
  | some (deferred _) => .function .converted ""
  | some (value v) => v

/-- What a provider gives; no provider gives the empty text. -/
def evaluate : Option Provider → Check Value
  | none => pure ""
  | some (text s) => pure s
  | some (deferred evaluate) => evaluate
  | some (value v) => v.callEmpty

/-- The text of what a provider gave: a text as it is, anything else in its plain
    form, or a remark if that is empty. -/
def render : Value → Except Fault String
  | .text s => .ok s
  | v => do
    let form ← v.plain
    return if form = "" then "<no error message>" else form

/-- What a provider gives, as text. -/
def message (provider : Option Provider) : Check String := do
  Check.ofExcept (render (← evaluate provider))

end Provider

namespace Check

/-- The message of a violation that has none. -/
def defaultMessage : Value :=
  "Assertion error"

/-- Fail with what an evaluation gives: an exception is raised as it is, anything
    else becomes the message of a violation. -/
def fail {α : Type} (error : Check Value) (extra : List Value) : Check α := do
  match ← error with
  | .exception id kind arguments => raise (.given id kind arguments)
  | message => violation (if message.isTruthy then message else defaultMessage) extra

/-- Fail with a text. -/
def failText {α : Type} (message : Check String) : Check α :=
  fail (do return .text (← message)) []

/-- Fail unless a value counts as true. -/
def assertTruthy (value : Value) (error : Check Value) (extra : List Value) : Check Unit :=
  if value.isTruthy then pure () else fail error extra

/-- A value that counts as true, or failure. -/
def truthy (value : Value) (error : Check Value) (extra : List Value) : Check Value := do
  assertTruthy value error extra
  return value

end Check

end Attest
