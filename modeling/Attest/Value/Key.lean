import Attest.Value.Fault

/-!
# Keys

Values as keys of mappings and members of sets.

Two keys are the same if they are one object or equal, and equality of numbers
goes by worth: `1`, `1.0` and `true` are one key. Numbers that are not a number
are the same key only if they are one object. Tuples and frozen sets are compared
by what they hold. A value that can be changed is no key.

Mappings keep their entries in the order in which their keys first came; writing
to a key that is present keeps its place and its first spelling.

## Main definitions

* `Value.isSameKey`: Whether two values are the same key.
* `Value.hashable`: Refuses a value that is no key.
* `Value.isMember`: Whether a value is a member of a set.
* `Entries.find?`: The value stored under a key.
* `Entries.insert`: Writing to a key.
-/

namespace Attest

namespace Value

mutual

/-- Whether two values are the same key. -/
def isSameKey (a b : Value) : Bool :=
  match a, b with
  | text s, text t => s = t
  | bytes bs, bytes cs => bs = cs
  | dateTime s, dateTime t => s.beq t
  | dateTime s, timestamp t => s.beq t
  | timestamp s, dateTime t => s.beq t
  | timestamp s, timestamp t => s.beq t
  | date c, date d => c = d
  | tuple i xs, tuple j ys => (i = j && !xs.isEmpty && !ys.isEmpty) || areSameKeys xs ys
  | frozenSet i xs, frozenSet j ys => i = j || (xs.length = ys.length && areKeysOf xs ys)
  | applied c xs, applied d ys => c = d && areSameKeys xs ys
  | a, b => a.isSame b || a.sameWorth b

/-- Whether two lists hold the same keys in the same places. -/
def areSameKeys (xs ys : List Value) : Bool :=
  match xs, ys with
  | [], [] => true
  | x :: xs, y :: ys => isSameKey x y && areSameKeys xs ys
  | _, _ => false

/-- Whether each of the values is the same key as one of the others. -/
def areKeysOf (xs ys : List Value) : Bool :=
  match xs with
  | [] => true
  | x :: xs => ys.any (isSameKey x) && areKeysOf xs ys

end

mutual

/-- Refuses a value that is no key: a container that can be changed, a tuple that
    holds one, or a decimal that refuses to be compared. -/
def hashable : Value → Except Fault Unit
  | list .. => .error (.unhashable "list")
  | dict .. => .error (.unhashable "dict")
  | view .. => .error (.unhashable "mappingproxy")
  | ordered .. => .error (.unhashable "collections.OrderedDict")
  | set .. => .error (.unhashable "set")
  | tuple _ items => allHashable items
  | applied _ arguments => allHashable arguments
  | decimal _ d => if d.isSignalling then .error .signallingKey else .ok ()
  | _ => .ok ()

/-- Refuses a list with a value that is no key. -/
def allHashable : List Value → Except Fault Unit
  | [] => .ok ()
  | v :: vs => do
    hashable v
    allHashable vs

end

/-- A value as it is looked for in a set. A set that can be changed is no key, but it is
    looked for as if it could not be changed. -/
def sought : Value → Value
  | set id items => frozenSet id items
  | v => v

/-- Whether a value is one of the members of a set. -/
def isMember (members : List Value) (wanted : Value) : Except Fault Bool := do
  hashable wanted.sought
  .ok (members.any (isSameKey · wanted.sought))

end Value

namespace Entries

/-- The value stored under a key. -/
def find? (entries : List (Value × Value)) (key : Value) : Option Value :=
  (entries.find? fun entry => entry.1.isSameKey key).map (·.2)

/-- The value stored under a key, or the one that does not exist. -/
def get (entries : List (Value × Value)) (key : Value) : Value :=
  (find? entries key).getD .undefined

/-- Write a value to a key. A key that is present keeps its place. -/
def insert {α : Type} (key : Value) (value : α) : List (Value × α) → List (Value × α)
  | [] => [(key, value)]
  | (k, v) :: entries =>
    if k.isSameKey key then (k, value) :: entries else (k, v) :: insert key value entries

/-- The entries that writing these one after another leaves. -/
def ofList {α : Type} (entries : List (Value × α)) : List (Value × α) :=
  entries.foldl (fun written (key, value) => insert key value written) []

end Entries

end Attest
