import Attest.Calendar.DateTime

/-!
# Zoned Date-Times

Texts that name one instant: a date, the letter `T`, a time of day to the second
with at most six digits of fraction, and a zone, which is `Z` or a signed distance
from universal time in hours and minutes.

The day has to be in the calendar and the time of day in range. The distance has
to be shorter than a day; its minutes are not checked on their own.

## Main definitions

* `ZonedDateTime.read?`: The instant that a text names.
* `isZonedDateTime`: Whether a text names one.
-/

namespace Attest

namespace ZonedDateTime

/-- Read a fraction of a second, if a point follows: one to six digits. The
    result is in nanoseconds. -/
def takeFraction? : List Char → Option (Nat × List Char)
  | '.' :: cs =>
    let (ds, rest) := Digits.span cs
    if 1 ≤ ds.length ∧ ds.length ≤ 6 then some (Digits.read ds * Nat.pow 10 (9 - ds.length), rest)
    else none
  | cs => some (0, cs)

/-- Read a time of day off the front of a text. -/
def takeTime? (cs : List Char) : Option (TimeOfDay × List Char) := do
  let (hour, cs) ← Digits.take? 2 cs
  let ':' :: cs := cs | none
  let (minute, cs) ← Digits.take? 2 cs
  let ':' :: cs := cs | none
  let (second, cs) ← Digits.take? 2 cs
  let (nanosecond, cs) ← takeFraction? cs
  let time ← TimeOfDay.of? hour minute second nanosecond
  some (time, cs)

/-- Read a zone, which ends the text: its distance from universal time. -/
def readZone? : List Char → Option Int
  | ['Z'] => some 0
  | sign :: cs => do
    guard (sign = '+' ∨ sign = '-')
    let (hour, cs) ← Digits.take? 2 cs
    let ':' :: cs := cs | none
    let (minute, []) ← Digits.take? 2 cs | none
    let distance : Int := 3600 * hour + 60 * minute
    guard (distance < 86400)
    some (if sign = '-' then -distance else distance)
  | [] => none

/-- The instant that a text names, if it names one. -/
def read? (cs : List Char) : Option DateTime := do
  let (date, cs) ← Date.take? cs
  let 'T' :: cs := cs | none
  let (time, cs) ← takeTime? cs
  let zone ← readZone? cs
  some ⟨date, time, some zone⟩

end ZonedDateTime

/-- Whether a text names an instant. -/
def isZonedDateTime (s : String) : Bool :=
  (ZonedDateTime.read? s.toList).isSome

end Attest
