import Attest.Assertion.Basic
import Attest.Elements
import Attest.Value.Order

/-!
# Running Assertions

An assertion is run on a value at a place in the data. The run goes through the
tree in a fixed order and ends at the first violation.

An object is checked for its shape, then for fields that the schema does not name,
then field by field in the order of the schema, and at last by the cross-field
entry. A field that is missing is checked as the value that does not exist. An
array is checked for its shape, its length, the uniqueness of its elements, and
then element by element. A record is checked entry by entry, of each entry first
the key, then the item, then the field that repeats the key, and at last as a
whole.

What an assertion may be depends on the position it stands in. A part of a
container accepts a schema as it is, but not for an array; a fallback accepts a
schema for any value; a call accepts functions only. In all three, a function that
returns something is refused: it is most likely a predicate whose answer would be
lost. The checks of a whole object or record are called directly.

## Main definitions

* `Position`: Where in the tree an assertion stands.
* `Assertion.run`: A run of an assertion on a value at a place.
* `Assertion.apply`: A call of an assertion from outside.
-/

namespace Attest

/-- Where in the tree an assertion stands. -/
inductive Position where
  /-- At a field, an element, or the key or item of an entry. -/
  | part
  /-- Behind an accepted value. -/
  | fallback
  /-- Called as an assertion. -/
  | called
  /-- Called as a function, whatever it returns. -/
  | direct
deriving DecidableEq

/-- How a length breaks its bounds. -/
inductive LengthFault where
  | tooShort
  | tooLong
deriving DecidableEq

/-- How a length breaks the bounds, if it does. The lower bound is looked at first. -/
def Bounds.judge (b : Bounds) (length : Nat) : Except Fault (Option LengthFault) := do
  if ← (Value.int length).less b.lower then return some .tooShort
  else if ← (Value.int length).greater b.upper then return some .tooLong
  else return none

namespace Callable

/-- What is wrong with a function that returned a value. -/
def resultComplaint (v : Value) : Except Fault String := do
  return "Assertion function must assert (return None) but it returns a value: " ++ (← v.quoted) ++
    ". Wrap with from_check()?"

/-- Refuse a value that an assertion returned. -/
def refuseResult : Value → Check Unit
  | .null => pure ()
  | v => Check.failText (Check.ofExcept (resultComplaint v))

/-- Run a function in a position. -/
def run (f : Callable) (position : Position) (v : Value) (c : Context) : Check Unit :=
  match position with
  | .direct => do
    let _ ← f.callWithContext v c
  | _ => do
    refuseResult (← f.callAsAssertion v c)

end Callable

namespace Assertion

/-- The form in which the failure of a predicate names the value. -/
def checkedForm : Value → Except Fault String
  | .null | .dict .. | .view .. | .ordered .. | .list .. | .tuple .. => .ok "[object]"
  | v => do return "'" ++ (← v.scalar) ++ "'"

/-- Run a predicate. The message of its failure is the place, or a remark if that is
    empty, and the message that comes with the predicate, or the value if that is
    empty. -/
def runTest (predicate : Value → Check Value) (message : Option Provider) (v : Value)
    (c : Context) : Check Unit := do
  if (← predicate v).isTruthy then return
  else Check.failText do
    let place ← c.text
    let place := if place = "" then "Check is failed" else place
    let place := if place.toList.getLast? = some ':' then place else place ++ ":"
    let text ← Provider.message message
    return place ++ " " ++ (← if text = "" then Check.ofExcept (checkedForm v) else pure text)

/-- What is wrong with a text of a length that breaks its bounds. -/
def textComplaint (bounds : Bounds) (n : Nat) : LengthFault → Except Fault String
  | .tooShort => do
    return "length is too small " ++ Value.natural n ++ " < " ++ (← bounds.lower.plain)
  | .tooLong => do
    return "length is too large " ++ Value.natural n ++ " > " ++ (← bounds.upper.plain)

/-- Run a bound on the length of a text. -/
def runBoundedText (bounds : Bounds) (v : Value) (c : Context) : Check Unit := do
  Primitive.string.run v c
  let n ← Check.ofExcept v.length
  match ← Check.ofExcept (bounds.judge n) with
  | none => return
  | some broken => c.failAt (textComplaint bounds n broken)

/-- The entries of an object. Anything but a mapping is a violation. -/
def objectEntries (v : Value) (c : Context) : Check (List (Value × Value)) :=
  if v.isArray then c.failAt (.ok "is an array.")
  else match v, v.mapping? with
    | .null, _ => c.failAt (.ok "is null")
    | _, some entries => pure entries
    | v, none => c.failAt (.ok ("is not an object: " ++ v.kindLabel))

/-- What is wrong with a name that is neither declared nor allowed. -/
def nameComplaint (name : Value) : Except Fault String := do
  return "property can't be checked: " ++ (← name.plain)

/-- Refuse the first name that is neither declared nor allowed. -/
def refuseUnknown (declares : Value → Except Fault Bool) (allowed : List Value) (c : Context) :
    List Value → Check Unit
  | [] => pure ()
  | name :: names => do
    if (← Check.ofExcept (declares name)) || allowed.any (Value.isSameKey · name) then
      refuseUnknown declares allowed c names
    else c.failAt (nameComplaint name)

/-- Check the names of an object's fields, if the rules ask for it. -/
def runNames (declares : Value → Except Fault Bool) (rules : ObjectRules)
    (entries : List (Value × Value)) (c : Context) : Check Unit := do
  if rules.isStrict then
    let allowed ← Check.ofExcept rules.allowed.elements
    Check.ofExcept (Value.allHashable allowed)
    refuseUnknown declares allowed c (entries.map (·.1))
  else return

/-- What is wrong with an array of a length that breaks its bounds. -/
def arrayComplaint (bounds : Bounds) (n : Nat) : LengthFault → Except Fault String
  | .tooShort => do
    return "array length < min_length. Array length: " ++ Value.natural n ++ ", min_length: " ++
      (← bounds.lower.plain)
  | .tooLong => do
    return "array length > max_length. Array length: " ++ Value.natural n ++ ", max_length: " ++
      (← bounds.upper.plain)

/-- A message that ends with a value as messages name it. -/
def withShown (message : String) (v : Value) : Except Fault String := do
  return message ++ (← v.shown)

/-- The items of an array whose length and uniqueness are as the rules ask. -/
def arrayItems (rules : ArrayRules) (v : Value) (c : Context) : Check (List Value) :=
  match v.array? with
  | none => c.failUnder (withShown "value is not an array: " v)
  | some items => do
    match ← Check.ofExcept (rules.bounds.judge items.length) with
    | some broken => c.failUnder (arrayComplaint rules.bounds items.length broken)
    | none =>
      match rules.identity with
      | none => return items
      | some identity =>
        if ← hasUniqueElements v identity then return items
        else c.failUnder (.ok "array contains non-unique elements")

/-- Run a check on each element, the first of which has the given index. -/
def runElements (check : Value → Context → Check Unit) (c : Context) (index : Nat) :
    List Value → Check Unit
  | [] => pure ()
  | item :: items => do
    check item (.element c index)
    runElements check c (index + 1) items

/-- The entries of a record. Anything but a mapping is a violation. -/
def recordEntries (v : Value) (c : Context) : Check (List (Value × Value)) :=
  if v.isArray then c.failUnder (.ok "the value is not a record, but is an array")
  else match v, v.mapping? with
    | .null, _ => c.failUnder (.ok "value is null")
    | _, some entries => pure entries
    | v, none => c.failUnder (withShown "value is not an object: " v)

/-- Check that a field of an item repeats the key that the item is stored under. An
    empty field name asks for nothing. -/
def runKeyField (keyField : Option String) (key item : Value) (c : Context) : Check Unit :=
  match keyField with
  | none | some "" => pure ()
  | some field =>
    match item.mapping? with
    | none => c.failBehind (withShown " is not an object: " item)
    | some entries =>
      -- A field that is missing repeats nothing, so it is compared like any other.
      let repeated := Entries.get entries field
      if repeated.strictEq key then pure ()
      else c.failBehind
        (withShown (" key value does not match object field '" ++ field ++ "' value: ") repeated)

/-- Run the checks of each entry: the key, the item, and the field that repeats the
    key. -/
def runEntries (checkKey : Option (Value → Context → Check Unit))
    (checkItem : Value → Context → Check Unit) (keyField : Option String) (c : Context) :
    List (Value × Value) → Check Unit
  | [] => pure ()
  | (key, item) :: entries => do
    let place := Context.entry c key
    match checkKey with
    | some check => check key (.keyOf place)
    | none => pure ()
    checkItem item place
    runKeyField keyField key item place
    runEntries checkKey checkItem keyField c entries

/-- What is wrong with a cross-field entry that is no function. -/
def crossFieldComplaint (key : Value) (a : Assertion) : Except Fault String := do
  return "." ++ (← key.plain) ++ " cross-field assertion is not a function: " ++ a.kindLabel

/-- The place of an object: its own, if it has one, else the one of the run. -/
def placeOf (own : Option Provider) (c : Context) : Context :=
  match own with
  | some provider => .root (some provider)
  | none => c

mutual

/-- A run of an assertion, standing in a position of the tree, on a value at a
    place in the data. -/
def run : Assertion → Position → Value → Context → Check Unit
  | primitive p, _, v, c => p.run v c
  | test predicate message, _, v, c => runTest predicate message v c
  | boundedText bounds, _, v, c => runBoundedText bounds v c
  | schema form fields, position, v, c => do
    -- A part says so at once if its value is an array, which no schema fits.
    match position with
    | .part =>
      if v.isArray then
        c.failBehind (.ok " use array_assertion() to create a value assertion for an array")
      else pure ()
    | .fallback => pure ()
    | .called | .direct => Check.raise (.fault (.notCallable form.className))
    let entries ← objectEntries v c
    runFields fields entries c
    runCrossField fields v c
  | object (schema form fields) own rules, _, v, c => do
    let place := placeOf own c
    let entries ← objectEntries v place
    runNames (schema form fields).declares rules entries place
    runFields fields entries place
    runCrossField fields v place
  | object other own rules, _, v, c => do
    let place := placeOf own c
    let entries ← objectEntries v place
    runNames other.declares rules entries place
    Check.raise (.fault other.notSchema)
  | array element rules, _, v, c => do
    let items ← arrayItems rules v c
    runElements (run element .part) c 0 items
  | record item key keyField crossField, _, v, c => do
    let entries ← recordEntries v c
    runEntries (runIfAny key .part) (run item .part) keyField c entries
    match runIfAny crossField .direct with
    | some check => check v c
    | none => pure ()
  | valueOr expected fallback, _, v, c =>
    if v.strictEq expected then pure () else run fallback .fallback v c
  | callable f, position, v, c => f.run position v c
  | value w, position, v, c =>
    match w.asCallable? with
    | some f => f.run position v c
    | none =>
      match position with
      | .part => c.failBehind (.ok (" assertion is not an object or a function: " ++ w.kindLabel))
      | _ => Check.raise (.fault (.notCallable w.className))

/-- The runs of an assertion that may be absent. -/
def runIfAny : Option Assertion → Position → Option (Value → Context → Check Unit)
  | none, _ => none
  | some a, position => some (run a position)

/-- Run the entries of a schema on the fields they name, in order. The cross-field
    entry is passed over, but it must be a function. -/
def runFields : List (Value × Assertion) → List (Value × Value) → Context → Check Unit
  | [], _, _ => pure ()
  | (key, a) :: fields, entries, c => do
    if ← Check.ofExcept (isCrossField key) then
      if a.isCallable then pure ()
      else c.failBehind (crossFieldComplaint key a)
    else run a .part (Entries.get entries key) (.field c key)
    runFields fields entries c

/-- Run the cross-field entry of a schema, if there is one, on the whole object. Of
    several it is the last one. -/
def runCrossField : List (Value × Assertion) → Value → Context → Check Unit
  | [], _, _ => pure ()
  | (key, a) :: fields, v, c => do
    -- A later entry of this kind takes the place of an earlier one.
    let isLast := fields.all fun field => (isCrossField field.1).toOption ≠ some true
    if (← Check.ofExcept (isCrossField key)) && isLast then run a .direct v c
    else runCrossField fields v c

end

/-- Call an assertion from outside, with a value and perhaps a context. -/
def apply (a : Assertion) (v : Value) (context : Option Context) : Check Unit :=
  match context with
  | some c => run a .direct v c
  | none =>
    let f? : Option Callable := match a with
      | callable f => some f
      | value w => w.asCallable?
      | _ => none
    match f? with
    | some f => do
      let _ ← f.callWithValue v
    | none => run a .direct v (.root none)

end Assertion

end Attest
