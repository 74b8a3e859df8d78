import Attest.Provider

/-!
# Contexts

Where in the data a check takes place.

A context is the place that a run started from, given by an error provider, and
the steps taken since: into a field, to an element, into an entry of a record. It
is kept as data and written as text only when there is a failure to report, so a
run that passes never evaluates the provider. A field is written with a dot, an
element by its index, an entry by its key in quotes.

A report that cannot be written raises what is in the way instead. Which of its parts is
written first can be seen then, and it differs from check to check.

## Main definitions

* `Context`: A place in the data.
* `Context.text`: A place, written.
* `Context.toValue`: A place, as the value that functions see.
* `Context.evaluate`: What a place gives as an error provider.
* `Context.explain`: The message of a failed check at a place.
-/

namespace Attest

/-- A place in the data. -/
inductive Context where
  /-- The place a run starts from. -/
  | root (provider : Option Provider)
  /-- A field of an object. -/
  | field (parent : Context) (key : Value)
  /-- An element of an array. -/
  | element (parent : Context) (index : Nat)
  /-- An entry of a record. -/
  | entry (parent : Context) (key : Value)
  /-- The key of an entry of a record. -/
  | keyOf (place : Context)

namespace Context

/-- A place, written: the message of the provider it starts from, followed by its
    steps. -/
def text : Context → Check String
  | root provider => Provider.message provider
  | field parent key => do return (← parent.text) ++ "." ++ (← Check.ofExcept key.plain)
  | element parent index => do return (← parent.text) ++ "[" ++ Value.natural index ++ "]"
  | entry parent key => do return (← parent.text) ++ "['" ++ (← Check.ofExcept key.plain) ++ "']"
  | keyOf place => do return (← place.text) ++ ", key assertion failed:"

/-- A place as the value that functions are called with. Every place but the start is a
    function without a name. -/
def toValue : Context → Value
  | root provider => Provider.toValue provider
  | _ => .function .converted ""

/-- What a place gives as an error provider. The start gives what its provider
    gives, every other place its text. -/
def evaluate : Context → Check Value
  | root provider => Provider.evaluate provider
  | c => do return .text (← c.text)

/-- A message with the text of a place in front of it, if that is not empty. -/
def joined (place message : String) : String :=
  if place = "" then message else place ++ " " ++ message

/-- What is wrong with a value, behind what its place gave as a provider. -/
def complaint (place : Value) (message : String) (value : Value) : Except Fault String := do
  let opening ← if place.isTruthy then do .ok ((← place.plain) ++ ": ") else .ok ""
  return opening ++ message ++ " " ++ (← value.shown)

/-- The message of a failed check: the place and a colon, what is wrong, and the
    value. A place that gives an exception raises it. -/
def explain (c : Context) (message : String) (value : Value) : Check Value := do
  match ← c.evaluate with
  | .exception id kind arguments => Check.raise (.given id kind arguments)
  | place => return .text (← Check.ofExcept (complaint place message value))

/-- Fail with a message that the place stands in front of. The message is written first. -/
def failAt {α : Type} (c : Context) (message : Except Fault String) : Check α :=
  Check.failText do
    let message ← Check.ofExcept message
    return joined (← c.text) message

/-- Fail with a message that the place stands in front of. The place is written first. -/
def failUnder {α : Type} (c : Context) (message : Except Fault String) : Check α :=
  Check.failText do return joined (← c.text) (← Check.ofExcept message)

/-- Fail with a message that directly follows the text of the place. -/
def failBehind {α : Type} (c : Context) (message : Except Fault String) : Check α :=
  Check.failText do return (← c.text) ++ (← Check.ofExcept message)

end Context

end Attest
