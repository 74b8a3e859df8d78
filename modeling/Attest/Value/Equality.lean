import Attest.Value.Key

/-!
# Equality of Values

Two equalities on untyped values.

*Loose* equality is the one that containers are built on: numbers of all kinds are
equal if they are worth the same, lists if their elements are, mappings if they
store equal values under the same keys. Two mappings for which the order counts must have
it in common too, while each of them may be equal to a plain mapping that stands between
them. An opaque object decides for itself, and may refuse.

*Strict* equality is the one that assertions use to match an expected value. It
never fails. One object is strictly equal to itself; two real numbers are if they
are worth the same; all other values must be of one kind, and then scalars are
compared by value while lists, tuples, mappings and sets are matched by identity
alone. A boolean is never strictly equal to a number.

## Main definitions

* `Value.looseEq`: Loose equality.
* `Value.strictEq`: Strict equality.
-/

namespace Attest

namespace Value

/-- What an opaque object answers when it is compared with something else. -/
def objectAnswer : ObjectMode → Except Fault Bool
  | .universal => .ok true
  | .refusing => .error .refusedComparison
  | .plain | .falsy => .ok false

/-- Whether a value is a decimal that refuses to be compared. -/
def isSignalling : Value → Bool
  | decimal _ d => d.isSignalling
  | _ => false

/-- Equality of two values of which neither is a container and the left one is not
    an opaque object: by worth for numbers, by identity for things that have
    nothing but it. -/
def scalarEq (a b : Value) : Except Fault Bool :=
  match b with
  | object _ _ mode => objectAnswer mode
  | b =>
    if a.isNumeric && b.isNumeric then
      if a.isSignalling || b.isSignalling then .error .invalidOperation else .ok (a.sameWorth b)
    else .ok (a.isSameKey b)

/-- Whether the members of two sets are the same keys. -/
def membersEq (xs ys : List Value) : Bool :=
  xs.length = ys.length && areKeysOf xs ys

mutual

/-- Loose equality. The comparison goes from left to right and stops at the first
    difference; it fails where an object refuses to be compared before that. -/
def looseEq (a b : Value) : Except Fault Bool :=
  match a, b with
  | object i _ mode, other =>
    match mode with
    | .plain | .falsy => .ok ((object i (.text "") mode).isSame other)
    | mode => objectAnswer mode
  | list _ xs, list _ ys => if xs.length = ys.length then itemsEq xs ys else .ok false
  | tuple _ xs, tuple _ ys => itemsEq xs ys
  | dict _ xs, dict _ ys | dict _ xs, view _ ys | dict _ xs, ordered _ ys
  | view _ xs, dict _ ys | view _ xs, view _ ys | view _ xs, ordered _ ys
  | ordered _ xs, dict _ ys | ordered _ xs, view _ ys =>
    if xs.length = ys.length then entriesEq xs ys else .ok false
  | ordered _ xs, ordered _ ys =>
    if xs.length = ys.length then do
      if ← entriesEq xs ys then keysEq xs ys else .ok false
    else .ok false
  | set _ xs, set _ ys | set _ xs, frozenSet _ ys | frozenSet _ xs, set _ ys
  | frozenSet _ xs, frozenSet _ ys => .ok (membersEq xs ys)
  | applied c xs, applied d ys => if c = d then itemsEq xs ys else .ok false
  | a, b => scalarEq a b
termination_by structural a

/-- Loose equality of two lists, element by element; one object is equal to itself
    without being asked. -/
def itemsEq (xs ys : List Value) : Except Fault Bool :=
  match xs, ys with
  | [], [] => .ok true
  | x :: xs, y :: ys =>
    if x.isSame y then itemsEq xs ys
    else do
      if ← looseEq x y then itemsEq xs ys else .ok false
  | _, _ => .ok false
termination_by structural xs

/-- Whether each entry of one mapping has its equal in the other. -/
def entriesEq (xs ys : List (Value × Value)) : Except Fault Bool :=
  match xs with
  | [] => .ok true
  | (key, x) :: xs =>
    match Entries.find? ys key with
    | none => .ok false
    | some y =>
      if x.isSame y then entriesEq xs ys
      else do
        if ← looseEq x y then entriesEq xs ys else .ok false
termination_by structural xs

/-- Loose equality of the keys of two mappings, in order. -/
def keysEq (xs ys : List (Value × Value)) : Except Fault Bool :=
  match xs, ys with
  | [], [] => .ok true
  | (x, _) :: xs, (y, _) :: ys =>
    if x.isSame y then keysEq xs ys
    else do
      if ← looseEq x y then keysEq xs ys else .ok false
  | _, _ => .ok false
termination_by structural xs

end

/-- Whether two values are one object or loosely equal. -/
def matchesItem (a b : Value) : Except Fault Bool :=
  if a.isSame b then .ok true else looseEq a b

/-- Equality of two values of one kind that are no real numbers, no lists, no
    tuples, no mappings and no sets, and that are two objects. Values of different
    kinds are not equal. -/
def kindEq : Value → Value → Bool
  | text s, text t => s = t
  | bytes bs, bytes cs => bs = cs
  | dateTime s, dateTime t => s.beq t
  | timestamp s, timestamp t => s.beq t
  | date c, date d => c = d
  | decimal _ c, decimal _ d => c.beq d
  | frozenSet _ xs, frozenSet _ ys => membersEq xs ys
  | applied c xs, applied d ys => c = d && (itemsEq xs ys).toOption = some true
  | object _ _ mode, object .. => mode = .universal
  | _, _ => false

/-- Strict equality. -/
def strictEq (a b : Value) : Bool :=
  a.isSame b ||
    if a.isNumber && b.isNumber then a.sameWorth b else kindEq a b

end Value

end Attest
