import Attest.Number.Digits

/-!
# Calendar Dates

Days of the Gregorian calendar, extended backwards to the year one.

A date holds a year, a month and a day together with the proof that the calendar
has such a day, so a date that is printed, compared or counted needs no further
check. Every fourth year is a leap year, except those of a hundred that four
hundred does not divide.

## Main definitions

* `Calendar.daysIn`: The length of a month.
* `Calendar.HasDay`: The calendar has a day of this year, month and number.
* `Date`: A day of the calendar.
* `Date.ordinal`: The number of the day, counted from the first of all days.
-/

namespace Attest

namespace Calendar

/-- Whether February of the year has a twenty-ninth day. -/
def isLeap (year : Nat) : Bool :=
  year % 4 = 0 && (year % 100 ≠ 0 || year % 400 = 0)

/-- The number of days of a month. -/
def daysIn (year month : Nat) : Nat :=
  if month = 2 then (if isLeap year then 29 else 28)
  else if month = 4 ∨ month = 6 ∨ month = 9 ∨ month = 11 then 30
  else 31

/-- The calendar has a day of this year, month and number. -/
def HasDay (year month day : Nat) : Prop :=
  1 ≤ year ∧ year ≤ 9999 ∧ 1 ≤ month ∧ month ≤ 12 ∧ 1 ≤ day ∧ day ≤ daysIn year month

instance (year month day : Nat) : Decidable (HasDay year month day) := by
  unfold HasDay
  infer_instance

/-- The days of the years before this one. -/
def daysBeforeYear (year : Nat) : Nat :=
  let y := year - 1
  365 * y + y / 4 - y / 100 + y / 400

/-- The days of the months of the year before this one. -/
def daysBeforeMonth (year month : Nat) : Nat :=
  (List.range (month - 1)).foldl (fun days m => days + daysIn year (m + 1)) 0

end Calendar

/-- A day of the calendar. -/
structure Date where
  /-- The year, from 1 to 9999. -/
  year : Nat
  /-- The month, from 1 to 12. -/
  month : Nat
  /-- The day of the month, from 1. -/
  day : Nat
  /-- The calendar has this day. -/
  inCalendar : Calendar.HasDay year month day
deriving DecidableEq

namespace Date

/-- The day of this year, month and number, if the calendar has it. -/
def of? (year month day : Nat) : Option Date :=
  if h : Calendar.HasDay year month day then some ⟨year, month, day, h⟩ else none

/-- The number of the day; the first day of the year one has the number one. -/
def ordinal (d : Date) : Nat :=
  Calendar.daysBeforeYear d.year + Calendar.daysBeforeMonth d.year d.month + d.day

/-- A date as year, month and day, joined by hyphens. -/
def text (d : Date) : List Char :=
  Digits.padded 4 d.year ++ '-' :: (Digits.padded 2 d.month ++ '-' :: Digits.padded 2 d.day)

/-- Read a date off the front of a text: four, two and two digits, joined by
    hyphens. -/
def take? (cs : List Char) : Option (Date × List Char) := do
  let (year, cs) ← Digits.take? 4 cs
  let '-' :: cs := cs | none
  let (month, cs) ← Digits.take? 2 cs
  let '-' :: cs := cs | none
  let (day, cs) ← Digits.take? 2 cs
  let d ← of? year month day
  some (d, cs)

/-- The date that a text denotes, if it is one. -/
def ofText? (s : String) : Option Date := do
  let (d, []) ← take? s.toList | none
  some d

end Date

end Attest
