import Attest.Assertion.Run

/-!
# Tables

Tables of typed columns, checked row by row.

A table is a list of columns, each with a label and cells of one type. It belongs to a library,
which hands out its rows, tells scalars from containers, and says of a scalar whether it counts as
missing. A row is checked as the record of its cells under the labels of their columns. A cell that
is missing is the value that does not exist, the same as a column that the table does not have. What
a container in a cell holds is left as it is.

The library is a parameter. The standard one counts as missing a gap in a column, nothing, and a
number that is not a number. It finds this out by comparing the scalar with itself, which a
signalling decimal refuses, and a table that shows one has no records. A table without columns has
no rows.

## Main definitions

* `Column`: A label with the cells below it.
* `Frame`: A table.
* `TableLibrary`: What is asked of the library that a table belongs to.
* `TableLibrary.seen`: A cell as a check sees it.
* `TableLibrary.records`: The rows of a table, as records.
* `TableLibrary.standard`: The library that is used.
* `Tabular.run`: A run of an assertion on each row.
-/

namespace Attest

/-- The cells of a column, by their type. -/
inductive Cells where
  /-- Values of any kind. -/
  | objects (cells : List Value)
  | integers (cells : List Int)
  | booleans (cells : List Bool)
  | floats (cells : List Binary64)
  /-- Integers with gaps. -/
  | optionalIntegers (cells : List (Option Int))
  /-- Points in time with gaps. -/
  | timestamps (cells : List (Option DateTime))

/-- A label with the cells below it. -/
structure Column where
  /-- The label. -/
  label : Value
  /-- The cells, from the first row on. -/
  cells : Cells

/-- A table. -/
structure Frame where
  /-- The columns, in order. -/
  columns : List Column

namespace Cells

/-- The number of cells. -/
def length : Cells → Nat
  | objects cells => cells.length
  | integers cells => cells.length
  | booleans cells => cells.length
  | floats cells => cells.length
  | optionalIntegers cells => cells.length
  | timestamps cells => cells.length

/-- The value that a column holds in a row, with a marker where there is none. A floating number
    is converted when it is taken out of its column. -/
def native (marker : Value) (cells : Cells) (row : Nat) : Value :=
  match cells with
  | objects cells => cells[row]?.getD marker
  | integers cells => (cells[row]?.map Value.int).getD marker
  | booleans cells => (cells[row]?.map Value.bool).getD marker
  | floats cells => (cells[row]?.map (Value.float .converted)).getD marker
  | optionalIntegers cells => (cells[row]?.join.map Value.int).getD marker
  | timestamps cells => (cells[row]?.join.map Value.timestamp).getD marker

end Cells

namespace Frame

/-- The number of rows. -/
def height (f : Frame) : Nat :=
  match f.columns with
  | [] => 0
  | column :: _ => column.cells.length

/-- The labels with the values below them in a row. -/
def nativeRow (marker : Value) (f : Frame) (row : Nat) : List (Value × Value) :=
  f.columns.map fun column => (column.label, column.cells.native marker row)

end Frame

/-- What is asked of the library that a table belongs to. -/
structure TableLibrary where
  /-- What stands for a gap in a column. -/
  marker : Value
  /-- The rows of a table, as labels with the values below them. -/
  rows : Frame → List (List (Value × Value))
  /-- Whether a value is a scalar. -/
  isScalar : Value → Bool
  /-- Whether a scalar counts as missing, unless it refuses to be looked at. -/
  isMissing : Value → Except Fault Bool

namespace TableLibrary

/-- A cell as a check sees it. A scalar that counts as missing is the value that does not exist. -/
def seen (library : TableLibrary) (v : Value) : Except Fault Value := do
  if library.isScalar v then
    if ← library.isMissing v then return .undefined
  return v

/-- An entry of a record: a label with the cell below it, as it is seen. -/
def entry (library : TableLibrary) (label v : Value) : Except Fault (Value × Value) := do
  return (label, ← library.seen v)

/-- The record of the row with an index. A label that occurs twice keeps its first place and its
    last cell. -/
def record (library : TableLibrary) (row : Nat) (cells : List (Value × Value)) :
    Except Fault Value := do
  return .dict (.row row) (Entries.ofList (← cells.mapM fun cell => library.entry cell.1 cell.2))

/-- The records of rows, the first of which has the given index. -/
def recordsFrom (library : TableLibrary) (row : Nat) :
    List (List (Value × Value)) → Except Fault (List Value)
  | [] => .ok []
  | cells :: rest => do
    return (← library.record row cells) :: (← recordsFrom library (row + 1) rest)

/-- The rows of a table, as records, unless a cell refuses to be looked at. -/
def records (library : TableLibrary) (f : Frame) : Except Fault (List Value) :=
  library.recordsFrom 0 (library.rows f)

/-- The library that is used. -/
def standard : TableLibrary where
  marker := .float .converted .nan
  rows f := (List.range f.height).map fun row =>
    Entries.ofList (f.nativeRow (.float .converted .nan) row)
  isScalar
    | .null | .bool _ | .int _ | .float .. | .fraction _ | .decimal .. | .text _ | .bytes _
    | .dateTime _ | .timestamp _ | .date _ => true
    | _ => false
  isMissing
    | .null => .ok true
    | .float _ x => .ok (x = .nan)
    | .decimal _ d => if d.isSignalling then .error .invalidOperation else .ok d.isNaN
    | _ => .ok false

end TableLibrary

/-- What is offered as a table. -/
inductive Tabular where
  /-- A table. -/
  | frame (f : Frame)
  /-- A value that is none. -/
  | value (v : Value)

namespace Tabular

/-- A run of an assertion on each row of a table, with rules for the rows together.
    What is not a table is refused. -/
def run (table : Tabular) (library : TableLibrary) (row : Assertion) (rules : ArrayRules)
    (c : Context) : Check Unit :=
  match table with
  | frame f => do
    let records ← Check.ofExcept (library.records f)
    (Assertion.array row rules).run .direct (.list .converted records) c
  | value v => c.failUnder (Assertion.withShown "value is not a DataFrame: " v)

end Tabular

end Attest
