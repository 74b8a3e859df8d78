import Attest.Value.Sequence

/-!
# Order of Values

Which of two untyped values is the smaller one.

Numbers of all kinds are ordered by worth, texts and byte strings by their
characters, lists and tuples by their first difference, sets by inclusion, days
and points in time by the calendar. Values of different sorts have no order, and
asking for it is a fault.

A read-only mapping has no order of its own: on the left it hands the comparison to
the mapping that it shows, on the right it asks that mapping the other way round. The
fault names what was compared in the end.

## Main definitions

* `Value.less`: Whether one value is below another.
* `Value.greater`: Whether one value is above another.
* `Value.remainderByTwo`: The remainder of a value divided by two.
-/

namespace Attest

/-- The two strict comparisons. -/
inductive Comparison where
  | below
  | above
deriving DecidableEq

namespace Comparison

/-- The sign a comparison is written with. -/
def sign : Comparison → String
  | below => "<"
  | above => ">"

/-- The comparison with its sides exchanged. -/
def swapped : Comparison → Comparison
  | below => above
  | above => below

/-- Whether a comparison holds, given a strict order. -/
def holds {α : Type} (comparison : Comparison) (lt : α → α → Bool) (a b : α) : Bool :=
  match comparison with
  | below => lt a b
  | above => lt b a

/-- Whether a comparison of a decimal with an exact worth holds. -/
def holdsOf (comparison : Comparison) (d : Scientific) (x : Extended) : Bool :=
  match comparison with
  | below => d.bltOf x
  | above => d.bgtOf x

end Comparison

namespace Value

/-- The fault of comparing values that have no common order. -/
def unordered (comparison : Comparison) (a b : Value) : Except Fault Bool :=
  .error (.notOrdered comparison.sign a.className b.className)

/-- Comparison of a decimal with another number, which is refused if one of them is
    not a number. -/
def decimalCompare (comparison : Comparison) (d : Scientific) (x : Extended) : Except Fault Bool :=
  if d.isNaN || x.isNaN then .error .invalidOperation else .ok (comparison.holdsOf d x)

/-- Comparison of two numbers. What is not a number is neither below nor above
    anything, but a decimal refuses to be compared with it. -/
def numbersCompare (comparison : Comparison) (a b : Value) : Except Fault Bool :=
  match a, b with
  | decimal _ c, decimal _ d =>
    if c.isNaN || d.isNaN then .error .invalidOperation else .ok (comparison.holds Scientific.blt c d)
  | decimal _ c, b =>
    match b.worth? with
    | some x => decimalCompare comparison c x
    | none => unordered comparison a b
  | a, decimal _ d =>
    match a.worth? with
    | some x => decimalCompare comparison.swapped d x
    | none => unordered comparison a b
  | a, b =>
    match a.worth?, b.worth? with
    | some p, some q => .ok (comparison.holds Extended.blt p q)
    | _, _ => unordered comparison a b

/-- Comparison of two values of which not both are lists or tuples. -/
def scalarsCompare (comparison : Comparison) (a b : Value) : Except Fault Bool :=
  match a, b with
  | view _ _, view _ _ => .error (.notOrdered comparison.swapped.sign "dict" "dict")
  | view _ _, b => .error (.notOrdered comparison.sign "dict" b.className)
  | a, view _ _ => .error (.notOrdered comparison.swapped.sign "dict" a.className)
  | text s, text t => .ok (comparison.holds (fun x y => decide (x < y)) s.toList t.toList)
  | bytes bs, bytes cs =>
    .ok (comparison.holds (fun x y => decide (x < y)) (bs.map UInt8.toNat) (cs.map UInt8.toNat))
  | date c, date d => .ok (comparison.holds (fun x y => decide (x < y)) c.ordinal d.ordinal)
  | dateTime s, dateTime t | dateTime s, timestamp t | timestamp s, dateTime t
  | timestamp s, timestamp t =>
    if s.offset.isSome = t.offset.isSome then
      .ok (comparison.holds (fun x y => decide (x < y)) s.nanoseconds t.nanoseconds)
    else unordered comparison a b
  | set _ xs, set _ ys | set _ xs, frozenSet _ ys | frozenSet _ xs, set _ ys
  | frozenSet _ xs, frozenSet _ ys =>
    .ok (comparison.holds (fun xs ys => xs.length < ys.length && areKeysOf xs ys) xs ys)
  | a, b => numbersCompare comparison a b

mutual

/-- Comparison of two values. -/
def compareBy (comparison : Comparison) (a b : Value) : Except Fault Bool :=
  match a, b with
  | list _ xs, list _ ys => itemsCompare comparison xs ys
  | tuple _ xs, tuple _ ys => itemsCompare comparison xs ys
  | a, b => scalarsCompare comparison a b

/-- Comparison of two lists by their first difference; a list that ends first is
    the smaller one. -/
def itemsCompare (comparison : Comparison) (xs ys : List Value) : Except Fault Bool :=
  match xs, ys with
  | x :: xs, y :: ys => do
    if ← matchesItem x y then itemsCompare comparison xs ys else compareBy comparison x y
  | xs, ys => .ok (comparison.holds (fun m n => decide (m < n)) xs.length ys.length)

end

/-- Whether the left value is below the right one. -/
def less (a b : Value) : Except Fault Bool :=
  compareBy .below a b

/-- Whether the left value is above the right one. -/
def greater (a b : Value) : Except Fault Bool :=
  compareBy .above a b

/-- The remainder of a rational divided by two, with the sign of the divisor. -/
def ratRemainder (q : Rat) : Rat :=
  q - 2 * ((q / 2).floor : Rat)

/-- A template filled with the number two. -/
def filledWithTwo (medium : Template.Medium) (cs : List Char) : Except Fault (List Char) :=
  match Template.fill medium 2 cs with
  | .ok cs => .ok cs
  | .error refusal => .error (.template refusal)

/-- The remainder of a value divided by two. The remainder of a decimal takes the
    sign of the decimal, that of any other number is not negative. The sign of the
    division is also the one that fills a template, so a text or byte string is taken
    as a template and filled with two. -/
def remainderByTwo : Value → Except Fault Value
  | bool b => .ok (int (if b then 1 else 0))
  | int n => .ok (int (n % 2))
  | fraction q => .ok (fraction (ratRemainder q))
  | float _ x =>
    match x.worth with
    | .finite q => .ok (float .converted (Binary64.ofRat (ratRemainder q)))
    | _ => .ok (float .converted .nan)
  | decimal _ d =>
    match d.remainderByTwo? with
    | some r => .ok (decimal .converted r)
    | none => .error .invalidOperation
  | text s => do .ok (text (String.ofList (← filledWithTwo .text s.toList)))
  | bytes bs => do
    let cs ← filledWithTwo .bytes (bs.map fun b => Char.ofNat b.toNat)
    .ok (bytes (cs.map fun c => c.toNat.toUInt8))
  | v => .error (.noRemainder v.className "int")

end Value

end Attest
