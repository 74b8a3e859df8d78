import Attest.Assertion.Run

/-!
# Named Assertions

Assertions that refer to each other by name.

A tree that describes nested data, such as a node whose children are nodes, refers
to itself. References are looked up when they are called, so a definition may name
one that comes later, or itself. A definition is given as a tree that depends on
how names are called, and calling a name closes the circle. Every call through a
name goes one level deeper; the number of levels is bounded, and what goes beyond
it is a fault.

## Main definitions

* `Reference`: What calling a name does.
* `Definitions`: Trees under names.
* `Definitions.call`: Calling a name, through a bounded number of levels.
* `Assertion.reference`: The assertion that calls a name.
-/

namespace Attest

/-- What calling a name with a value, and perhaps a context, does. -/
abbrev Reference := String → Value → Option Context → Check Value

/-- Trees under names, each depending on how names are called. -/
abbrev Definitions := List (String × (Reference → Check Assertion))

namespace Assertion

/-- The assertion that calls a name. -/
def reference (names : Reference) (name : String) : Assertion :=
  callable ⟨.unnamed, .assertion, names name⟩

/-- Call what a name stands for: a schema on any value, anything else as an
    assertion. -/
def callNamed (a : Assertion) (v : Value) (c : Context) : Check Unit :=
  match a with
  | schema form fields => run (schema form fields) .fallback v c
  | a => run a .called v c

end Assertion

namespace Definitions

/-- Call a name, where references may go `levels` levels deep. Of two definitions of
    one name the later one counts. -/
def call (definitions : Definitions) : Nat → Reference
  | 0, _, _, _ => Check.raise (.fault .tooDeep)
  | levels + 1, name, v, context => do
    match definitions.reverse.lookup name with
    | none => Check.raise (.fault (.missingKey name))
    | some build =>
      let a ← build (call definitions levels)
      a.callNamed v (context.getD (.root none))
      return .null

/-- How many levels deep references may go. -/
def depth : Nat := 200

/-- Call a name. -/
def names (definitions : Definitions) : Reference :=
  definitions.call depth

end Definitions

end Attest
