import Attest.Value.Equality

/-!
# Values as Sequences

Length, elements, membership and look-up of untyped values.

Not only lists have elements: a text is made of characters, a byte string of
numbers, and going through a mapping gives its keys. Each operation refuses the
values that do not support it, and says why.

## Main definitions

* `Value.length`: How many elements a value has.
* `Value.elements`: The elements of a value, in order.
* `Value.contains`: Whether an element is in a value.
* `Value.item`: The element under a key or at a position.
-/

namespace Attest

namespace Value

/-- The elements of a value, in order. -/
def elements : Value → Except Fault (List Value)
  | list _ items | tuple _ items | set _ items | frozenSet _ items => .ok items
  | dict _ entries | view _ entries | ordered _ entries => .ok (entries.map (·.1))
  | text s => .ok (s.toList.map fun c => text (String.singleton c))
  | bytes bs => .ok (bs.map fun b => int b.toNat)
  | v => .error (.notIterable v.className)

/-- How many elements a value has. -/
def length : Value → Except Fault Nat
  | list _ items | tuple _ items | set _ items | frozenSet _ items => .ok items.length
  | dict _ entries | view _ entries | ordered _ entries => .ok entries.length
  | text s => .ok s.length
  | bytes bs => .ok bs.length
  | v => .error (.noLength v.className)

/-- Whether one of the items is the wanted one, or loosely equal to it. -/
def anyMatches (items : List Value) (wanted : Value) : Except Fault Bool :=
  match items with
  | [] => .ok false
  | item :: items => do
    if ← matchesItem item wanted then .ok true else anyMatches items wanted

/-- Whether one list stands somewhere in another. -/
def isInfix {α : Type} [BEq α] (part : List α) : List α → Bool
  | [] => part.isEmpty
  | x :: xs => part.isPrefixOf (x :: xs) || isInfix part xs

/-- Whether an integer is one of the bytes; it has to be a byte. -/
def hasByte (bs : List UInt8) (n : Int) : Except Fault Bool :=
  if 0 ≤ n ∧ n < 256 then .ok (bs.any fun b => (b.toNat : Int) = n) else .error .notByte

/-- Whether an element is in a value: a key in a mapping, a member in a set, an
    item in a list, a part in a text or byte string, a byte in the latter. -/
def contains (container wanted : Value) : Except Fault Bool :=
  match container with
  | list _ items | tuple _ items => anyMatches items wanted
  | set _ items | frozenSet _ items => isMember items wanted
  | dict _ entries | view _ entries | ordered _ entries => do
    hashable wanted
    .ok (entries.any fun entry => entry.1.isSameKey wanted)
  | text s =>
    match wanted with
    | text part => .ok (isInfix part.toList s.toList)
    | v => .error (.notSearchable "string" v.className)
  | bytes bs =>
    match wanted with
    | bytes part => .ok (isInfix part bs)
    | int n => hasByte bs n
    | bool b => hasByte bs (if b then 1 else 0)
    | v => .error (.notByteString v.className)
  | v => .error (.notContainer v.className)

/-- The name that positions in a sequence go by; those in a byte string have none. -/
def sequenceName : Value → String
  | text _ => "string"
  | bytes _ => ""
  | v => v.className

/-- The fault of a key that is not a position. -/
def badKey (container key : Value) : Fault :=
  match container with
  | text _ => .badTextPosition key.className
  | bytes _ => .badPosition "byte" key.className
  | v => .badPosition v.className key.className

/-- The item at a position; negative positions count from the end. Positions are
    integers of 64 binary digits. -/
def position (sequence : String) (items : List Value) (n : Int) : Except Fault Value :=
  let i := if n < 0 then n + items.length else n
  if n < -Nat.pow 2 63 ∨ Nat.pow 2 63 ≤ n then .error .positionTooLarge
  else match (if i < 0 then none else items[i.toNat]?) with
    | some item => .ok item
    | none => .error (.outOfRange sequence)

/-- What a class gives for what its values are said to hold. Only the classes of
    containers are told; a tuple tells several things. -/
def ofClass (c : BuiltinClass) (key : Value) : Except Fault Value :=
  match c with
  | .mapping | .list =>
    match key with
    | tuple _ items => .ok (applied c items)
    | v => .ok (applied c [v])
  | c => .error (.classNotSubscriptable c.name)

/-- The element under a key of a mapping, or at a position of a sequence. -/
def item (container key : Value) : Except Fault Value :=
  let at? (items : List Value) : Except Fault Value :=
    match key with
    | int n => position container.sequenceName items n
    | bool b => position container.sequenceName items (if b then 1 else 0)
    | _ => .error (badKey container key)
  match container with
  | dict _ entries | view _ entries | ordered _ entries => do
    hashable key
    match Entries.find? entries key with
    | some value => .ok value
    | none => .error (.missingKey key)
  | list _ items | tuple _ items => at? items
  | text s => at? (s.toList.map fun c => text (String.singleton c))
  | bytes bs => at? (bs.map fun b => int b.toNat)
  | builtin c => ofClass c key
  | v => .error (.notSubscriptable v.className)

end Value

end Attest
