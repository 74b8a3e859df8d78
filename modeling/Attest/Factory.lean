import Attest.Outcome

/-!
# Error Factories

How a program chooses what violations are raised as.

The standard factory builds a schema error from the message and leaves further
values aside. A labelled factory puts an opening in front of the message, appends
the further values, and builds an exception of a chosen kind; it may insist on how
many further values there are. One that builds no exception at all cannot be
raised, and the violation turns into a fault.

## Main definitions

* `ErrorFactory.standard`: The factory in use unless another one is chosen.
* `LabelledFactory`: The settings of a labelled factory.
* `LabelledFactory.toFactory`: The factory that the settings describe.
-/

namespace Attest

/-- The factory in use unless another one is chosen. -/
def ErrorFactory.standard : ErrorFactory :=
  fun message _ => .built .schemaError [message]

/-- The settings of a labelled factory. -/
structure LabelledFactory where
  /-- The kind of exception to build, or none if none is built. -/
  kind : Option ExceptionKind
  /-- The text in front of every message. -/
  opening : String
  /-- How many further values are taken, if that is fixed. -/
  extras : Option Nat

namespace LabelledFactory

/-- Whether a number of further values is accepted. -/
def takes (settings : LabelledFactory) (n : Nat) : Bool :=
  match settings.extras with
  | some m => n = m
  | none => true

/-- The factory that the settings describe. -/
def toFactory (settings : LabelledFactory) : ErrorFactory :=
  fun message extra =>
    if settings.takes extra.length then
      match settings.kind, message with
      | some kind, .text s =>
        match extra.mapM Value.plain with
        | .ok texts => .built kind [.text (":".intercalate ((settings.opening ++ s) :: texts))]
        | .error f => .fault f
      | some _, v => .fault (.notText v.className)
      | none, _ => .fault .notException
    else .fault .wrongArguments

end LabelledFactory

end Attest
