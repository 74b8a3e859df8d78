import Attest.Assertion.Build
import Attest.Frame

/-!
# Checks on Whole Values

The entry points: a value, or a table, is held against an assertion at a place in
the data, and the check raises at the first violation.

## Main definitions

* `assertObject`: A value is an object of a schema.
* `assertArray`: A value is an array with such elements.
* `assertRecord`: A value is a record with such items.
* `assertFrame`: Every row of a table is as it should be.
-/

namespace Attest

/-- Check that a value is an object of a schema. -/
def assertObject (schema : Assertion) (rules : ObjectRules) (v : Value) (c : Context) :
    Check Unit :=
  (Assertion.object schema none rules).run .direct v c

/-- Check that a value is an array with such elements. -/
def assertArray (element : Assertion) (rules : ArrayRules) (v : Value) (c : Context) : Check Unit :=
  (Assertion.array element rules).run .direct v c

/-- Check that a value is a record with such items. -/
def assertRecord (item : Assertion) (rules : RecordRules) (v : Value) (c : Context) : Check Unit :=
  (Assertion.recordOf item rules).run .direct v c

/-- Check that every row of a table is as it should be. -/
def assertFrame (library : TableLibrary) (row : Assertion) (rules : ArrayRules) (table : Tabular)
    (c : Context) : Check Unit :=
  table.run library row rules c

end Attest
