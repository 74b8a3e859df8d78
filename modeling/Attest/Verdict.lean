import Attest.Assert

/-!
# Verdicts

Checks that answer instead of raising.

A verdict is nothing if a check passes and the message of what it raised if not. A
request to stop the program is not an error of the data and passes through. So does what
goes wrong when the message is written. The message is empty only if an exception that
writes itself makes it so; apart from that, nothing that was refused looks as if it had
passed.

## Main definitions

* `verdict`: The message of what a check raises, if it raises something.
* `validateObject`, `validateArray`, `validateRecord`, `validateFrame`: Their verdicts.
-/

namespace Attest

/-- The message of what a computation raises, if it raises an ordinary error. -/
def verdict {α : Type} (x : Check α) : Check (Option String) := do
  match ← x.attempt with
  | .ok _ => return none
  | .error raised =>
    if raised.isOrdinary then some <$> Check.ofExcept raised.message else Check.raise raised

/-- The verdict on an object. -/
def validateObject (schema : Assertion) (rules : ObjectRules) (v : Value) (c : Context) :
    Check (Option String) :=
  verdict (assertObject schema rules v c)

/-- The verdict on an array. -/
def validateArray (element : Assertion) (rules : ArrayRules) (v : Value) (c : Context) :
    Check (Option String) :=
  verdict (assertArray element rules v c)

/-- The verdict on a record. -/
def validateRecord (item : Assertion) (rules : RecordRules) (v : Value) (c : Context) :
    Check (Option String) :=
  verdict (assertRecord item rules v c)

/-- The verdict on a table. -/
def validateFrame (library : TableLibrary) (row : Assertion) (rules : ArrayRules) (table : Tabular)
    (c : Context) : Check (Option String) :=
  verdict (assertFrame library row rules table c)

end Attest
