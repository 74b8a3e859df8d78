import Attest.Assertion.Build
import Attest.Text.Lowercase
import Attest.Value.Order

/-!
# Probes

Ready-made functions to supply: providers, predicates, identities, comparisons and
assertions. Those with a name leave an event in the trace when they are called, and
so make visible what a run calls and in which order.

## Main definitions

* `Probe.provider`: A provider that is seen.
* `Probe.predicate`, `Probe.identity`, `Probe.comparison`: Functions that are seen.
* `Probe.assertion`: An assertion that is seen.
-/

namespace Attest

namespace Probe

/-- A provider that gives a value. -/
def giving (v : Value) : Provider :=
  .deferred (pure v)

/-- A provider that raises. -/
def raising (v : Value) : Provider :=
  .deferred (Check.raise (.ofValue v))

/-- A provider that is seen, and gives a value. -/
def provider (name : String) (v : Value) : Provider :=
  .deferred do
    Check.record (.provided name)
    return v

/-- A predicate given by a total test, under the name of the test. -/
def testing (name : String) (holds : Value → Bool) : Predicate :=
  .function (.named name) fun v => pure (.bool (holds v))

/-- A predicate given by a computation. -/
def asking (ask : Value → Check Value) : Predicate :=
  .function .unnamed ask

/-- A predicate that is seen, and answers a value. -/
def predicate (name : String) (answer : Value) : Predicate :=
  asking fun v => do
    Check.record (.checked name v)
    return answer

/-- The predicate whether a number is not a number. It refuses what is not a number,
    and numbers that no floating number is near to. -/
def notANumber : Predicate :=
  .function (.native "math.isnan") fun v => do
    match ← Check.ofExcept (BuiltinClass.nearestFloating v (.notReal v.className)) with
    | .float _ x => return .bool (x = .nan)
    | _ => return .bool false

/-- The identity of a text in small letters. -/
def lowered : Value → Check Value
  | .text s => pure (.text (Text.lowercase s))
  | .bytes bs => pure (.bytes (bs.map fun b => if 0x41 ≤ b ∧ b ≤ 0x5a then b + 0x20 else b))
  | .builtin .text => Check.raise (.fault (.unboundMethod "str" "lower"))
  | .builtin c => Check.raise (.fault (.noMethod ("type object " ++ Fault.named c.name) "lower"))
  | v => Check.raise (.fault (.noMethod (Fault.named v.className ++ " object") "lower"))

/-- The identity of an element by its length. -/
def lengthOf (v : Value) : Check Value := do
  return .int (← Check.ofExcept v.length)

/-- The identity of an element by one of its fields. -/
def fieldOf (key v : Value) : Check Value :=
  Check.ofExcept (v.item key)

/-- An identity that is seen. -/
def identity (name : String) (identity : Value → Check Value) (v : Value) : Check Value := do
  Check.record (.identified name v)
  identity v

/-- A comparison that is seen. -/
def comparison (compare : Value → Value → Check Value) (a b : Value) : Check Value := do
  Check.record (.compared a b)
  compare a b

/-- The comparison of two values by their remainders divided by two. -/
def parity (a b : Value) : Check Value := do
  let m ← Check.ofExcept a.remainderByTwo
  let n ← Check.ofExcept b.remainderByTwo
  return .bool (← Check.ofExcept (m.looseEq n))

/-- The comparison by loose equality. -/
def loosely (a b : Value) : Check Value := do
  return .bool (← Check.ofExcept (a.looseEq b))

/-- What a probe shows of the context it is called with. -/
def contextShown : Option Context → Check Value
  | none => pure .undefined
  | some c => do return .text (← c.text)

/-- An assertion that is seen, perhaps with the context it reads, and returns a
    value. -/
def assertion (name : String) (returned : Value) (readsContext : Bool) (signature : Signature) :
    Assertion :=
  .callable ⟨.unnamed, signature, fun v context => do
    let shown ← if readsContext then some <$> contextShown context else pure none
    Check.record (.called name v shown)
    return returned⟩

/-- An assertion that always fails, with a message and further values. -/
def failing (message : Option Provider) (extra : List Value) : Assertion :=
  .callable ⟨.unnamed, .assertion, fun _ _ => Check.fail (Provider.evaluate message) extra⟩

/-- What a function that is called without a context gives as an error provider. -/
def evaluateContext : Option Context → Check Value
  | none => Provider.evaluate none
  | some c => c.evaluate

/-- The assertion that a value counts as true; the context is its message. -/
def truthy : Assertion :=
  .callable ⟨.unnamed, .assertion, fun v context => do
    Check.assertTruthy v (evaluateContext context) []
    return .null⟩

/-- An assertion that raises whatever it is called with. -/
def raisingAssertion (raised : Value) : Assertion :=
  .callable ⟨.unnamed, .assertion, fun _ _ => Check.raise (.ofValue raised)⟩

/-- The assertion that two fields of a value are strictly equal. Without a message
    of its own, the context is its message. -/
def same (first second : Value) (message : Option Provider) : Assertion :=
  .callable ⟨.unnamed, .assertion, fun v context => do
    let a ← Check.ofExcept (v.item first)
    let b ← Check.ofExcept (v.item second)
    let error := match message with
      | some provider => Provider.evaluate (some provider)
      | none => evaluateContext context
    Check.assertTruthy (.bool (a.strictEq b)) error []
    return .null⟩

end Probe

end Attest
