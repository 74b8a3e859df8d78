import Attest.Calendar.Date

/-!
# Points in Time

A day of the calendar with a time of day, and perhaps its distance from
universal time.

A time with a known offset names an instant; a time without one is only a
reading of a clock. The two are never equal and cannot be ordered, while two
readings with different offsets are equal if they name one instant.

## Main definitions

* `TimeOfDay`: Hour, minute, second and nanosecond.
* `DateTime`: A date, a time of day and an optional offset.
* `DateTime.beq`: The same instant, or the same reading.
* `DateTime.ofText?`: The point in time that a text denotes.
-/

namespace Attest

/-- A time of day. -/
structure TimeOfDay where
  /-- The hour. -/
  hour : Nat
  /-- The minute. -/
  minute : Nat
  /-- The second. -/
  second : Nat
  /-- The fraction of the second. -/
  nanosecond : Nat
  /-- The hour is below 24. -/
  hour_lt : hour < 24
  /-- The minute is below 60. -/
  minute_lt : minute < 60
  /-- The second is below 60. -/
  second_lt : second < 60
  /-- The fraction is below one second. -/
  nanosecond_lt : nanosecond < 1000000000
deriving DecidableEq

namespace TimeOfDay

/-- The time of day of these parts, if all are in range. -/
def of? (hour minute second nanosecond : Nat) : Option TimeOfDay :=
  if h : hour < 24 ∧ minute < 60 ∧ second < 60 ∧ nanosecond < 1000000000 then
    some ⟨hour, minute, second, nanosecond, h.1, h.2.1, h.2.2.1, h.2.2.2⟩
  else none

/-- The seconds since midnight. -/
def seconds (t : TimeOfDay) : Nat :=
  3600 * t.hour + 60 * t.minute + t.second

/-- The fraction of a second: nothing if it is zero, six digits if they are
    enough, nine otherwise. -/
def fractionText (t : TimeOfDay) : List Char :=
  if t.nanosecond = 0 then []
  else if t.nanosecond % 1000 = 0 then '.' :: Digits.padded 6 (t.nanosecond / 1000)
  else '.' :: Digits.padded 9 t.nanosecond

/-- A time of day as hour, minute and second, joined by colons. -/
def text (t : TimeOfDay) : List Char :=
  Digits.padded 2 t.hour ++ ':' :: (Digits.padded 2 t.minute ++ ':' ::
    (Digits.padded 2 t.second ++ t.fractionText))

/-- Read the fraction of a second, if a point follows: one to nine digits. -/
def takeFraction? (cs : List Char) : Option (Nat × List Char) :=
  match cs with
  | '.' :: rest =>
    let (ds, rest) := Digits.span rest
    if 1 ≤ ds.length ∧ ds.length ≤ 9 then
      some (Digits.read ds * Nat.pow 10 (9 - ds.length), rest)
    else none
  | _ => some (0, cs)

/-- Read hour and minute off the front of a text, and second and fraction if
    they follow. The ranges are not checked. -/
def takeFields? (cs : List Char) : Option ((Nat × Nat × Nat × Nat) × List Char) := do
  let (hour, cs) ← Digits.take? 2 cs
  let ':' :: cs := cs | some ((hour, 0, 0, 0), cs)
  let (minute, cs) ← Digits.take? 2 cs
  let ':' :: cs := cs | some ((hour, minute, 0, 0), cs)
  let (second, cs) ← Digits.take? 2 cs
  let (nanosecond, cs) ← takeFraction? cs
  some ((hour, minute, second, nanosecond), cs)

/-- Midnight. -/
def midnight : TimeOfDay :=
  ⟨0, 0, 0, 0, by decide, by decide, by decide, by decide⟩

end TimeOfDay

/-- A point in time. -/
structure DateTime where
  /-- The day. -/
  date : Date
  /-- The time of day. -/
  time : TimeOfDay
  /-- How many seconds the clock is ahead of universal time, if that is known. -/
  offset : Option Int
deriving DecidableEq

namespace DateTime

/-- The nanoseconds since the first of all days, of universal time if the offset
    is known. -/
def nanoseconds (t : DateTime) : Int :=
  ((t.date.ordinal * 86400 + t.time.seconds : Int) - t.offset.getD 0) * 1000000000
    + t.time.nanosecond

/-- Two points in time are equal if both or neither have an offset and they name
    one instant, respectively one reading. -/
def beq (s t : DateTime) : Bool :=
  s.offset.isSome = t.offset.isSome && s.nanoseconds = t.nanoseconds

/-- An offset as a sign, hours and minutes, and seconds if there are any. -/
def offsetText (offset : Int) : List Char :=
  let n := offset.natAbs
  let seconds := n % 60
  (if offset < 0 then '-' else '+') :: (Digits.padded 2 (n / 3600) ++ ':' ::
    (Digits.padded 2 (n / 60 % 60) ++ (if seconds = 0 then [] else ':' :: Digits.padded 2 seconds)))

/-- A point in time with the given separator between date and time. -/
def write (separator : Char) (t : DateTime) : String :=
  String.ofList (t.date.text ++ separator :: (t.time.text ++
    match t.offset with
    | some offset => offsetText offset
    | none => []))

/-- Read the distance from universal time: nothing, the letter `Z`, or a sign
    with hours and minutes. It is less than a day. -/
def readOffset? : List Char → Option (Option Int)
  | [] => some none
  | ['Z'] => some (some 0)
  | sign :: cs => do
    guard (sign = '+' ∨ sign = '-')
    let ((hour, minute, second, _), []) ← TimeOfDay.takeFields? cs | none
    let n : Int := 3600 * hour + 60 * minute + second
    guard (n < 86400)
    some (some (if sign = '-' then -n else n))

/-- The point in time that a text denotes: a date alone, or a date and a time of
    day separated by one character, perhaps with an offset. -/
def ofText? (s : String) : Option DateTime := do
  let (date, cs) ← Date.take? s.toList
  match cs with
  | [] => some ⟨date, TimeOfDay.midnight, none⟩
  | _ :: cs => do
    let ((hour, minute, second, nanosecond), cs) ← TimeOfDay.takeFields? cs
    let time ← TimeOfDay.of? hour minute second nanosecond
    let offset ← readOffset? cs
    some ⟨date, time, offset⟩

end DateTime

end Attest
