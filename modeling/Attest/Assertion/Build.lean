import Attest.Assertion.Run

/-!
# Building Assertions

Assertions whose parts are checked while the tree is built.

A predicate has to be a function, and the bounds of an array have to leave room for
at least one length. Both are mistakes of whoever writes the tree, so they are
reported at once and not when a value is checked. The bounds of a text are not
looked at before there is a text.

## Main definitions

* `Assertion.ofPredicate`: A predicate that may turn out to be none.
* `Assertion.arrayOf`: An array with bounds that have been checked.
* `Assertion.recordOf`: A record under rules.
* `Assertion.undefinedOr`, `Assertion.nullOr`: Optional and nullable parts.
-/

namespace Attest

/-- What is offered as a predicate. -/
inductive Predicate where
  /-- A function of a value, with what reports say of it. -/
  | function (profile : Profile) (ask : Value → Check Value)
  /-- A plain value, which may or may not be a function. -/
  | value (v : Value)

namespace Predicate

/-- The assertion that a bare predicate is when it stands in the place of one: a
    function of a value alone. -/
def asAssertion : Predicate → Assertion
  | function profile ask => .callable ⟨profile, .predicate, fun v _ => ask v⟩
  | value v => .value v

end Predicate

/-- The rules of a record. -/
structure RecordRules where
  /-- What every key has to satisfy, if anything. -/
  key : Option Assertion
  /-- The field of every item that repeats its key, if there is one. -/
  keyField : Option String
  /-- What the whole record has to satisfy, if anything. -/
  crossField : Option Assertion

/-- The rules of a record that may have any keys. -/
def RecordRules.lenient : RecordRules :=
  ⟨none, none, none⟩

namespace Assertion

/-- The assertion that a predicate holds, with the message of its failure. What is
    not a function is refused. -/
def ofPredicate (predicate : Predicate) (message : Option Provider) : Check Assertion :=
  match predicate with
  | .function _ ask => pure (test ask message)
  | .value v =>
    match v.asCallable? with
    | some f => pure (test (fun v => f.callWithValue v) message)
    | none => Check.failText do
      return "\"check\" is not a function: " ++ (← Check.ofExcept v.quoted)

/-- What is wrong with bounds of which the lower one is above the upper one. -/
def crossingComplaint (b : Bounds) : Except Fault String := do
  let lower ← b.lower.plain
  return "min_length must be <= max_length! min_length: " ++ lower ++ ", max_length: " ++
    (← b.upper.plain)

/-- What is wrong with a bound that is negative, by its name. -/
def negativeComplaint (name : String) (bound : Value) : Except Fault String := do
  return name ++ " must be a positive number: " ++ (← bound.plain)

/-- Refuse bounds that no length keeps. -/
def checkBounds (b : Bounds) : Check Unit := do
  let zero := Value.int 0
  if ← Check.ofExcept (b.lower.greater b.upper) then
    Check.failText (Check.ofExcept (crossingComplaint b))
  else if ← Check.ofExcept (b.lower.less zero) then
    Check.failText (Check.ofExcept (negativeComplaint "min_length" b.lower))
  else if ← Check.ofExcept (b.upper.less zero) then
    Check.failText (Check.ofExcept (negativeComplaint "max_length" b.upper))
  else return

/-- An array, with bounds that have been checked. -/
def arrayOf (element : Assertion) (rules : ArrayRules) : Check Assertion := do
  checkBounds rules.bounds
  return array element rules

/-- What stands in an optional place: the value that stands for nothing is no
    assertion there. -/
def optional : Assertion → Option Assertion
  | .value .null => none
  | a => some a

/-- A record with such items, under rules. -/
def recordOf (item : Assertion) (rules : RecordRules) : Assertion :=
  record item rules.key rules.keyField rules.crossField

/-- A part that may be missing. -/
def undefinedOr (fallback : Assertion) : Assertion :=
  valueOr .undefined fallback

/-- A part that may be the value that stands for nothing. -/
def nullOr (fallback : Assertion) : Assertion :=
  valueOr .null fallback

end Assertion

end Attest
