import Mathlib.Data.List.Induction
import Attest.Primitive

/-!
# The Texts of Instants

The texts that name an instant, said without reading them.

A reader goes through such a text from the left, takes a fixed number of digits at a time and gives
up where a separator is missing or a number is out of range. What it accepts is a date, the letter
`T`, a time of day and a zone one behind the other, and each of these is a row of fields. One
equivalence is shown for each of the readers, between what it takes off the front of a text and the
form of what it takes, and put together these give the form of the whole.

The fields are checked in different places. The ranges of the date and of the time of day are part
of what a date and a time of day are. The zone is read as a distance, and only the distance is
checked: it has to be shorter than a day. So sixty minutes and more are let pass as minutes of a
zone, up to 99 where the hours leave room for them, and `isoDateTime_holds_iff` says that these are
the only texts beyond those whose every field is in range.

## Main definitions

* `Digits.IsField`: Digits that stand for a number.
* `Date.IsText`, `ZonedDateTime.IsTime`: A date and a time of day, written.
* `ZonedDateTime.IsZone`: A zone, whose hours and minutes are within a range.
* `ZonedDateTime.IsText`: A point in time with a zone, written.
* `ZonedDateTime.OnClock`, `ZonedDateTime.Overfull`: Hours and minutes as a clock shows them, and
  hours with too many minutes that are still shorter than a day.

## Theorems

* `take?_eq_some_iff`: What is read off the front of a text as a field.
* `read_lt`: Digits stand for less than the power of ten of their number.
* `Date.exists_take?_iff`: What is read off the front of a text as a date.
* `exists_readZone?_iff`: The zones that are read.
* `isZonedDateTime_iff`: The texts that name an instant.
* `isoDateTime_holds_iff`: The values that name one, by the range of the zone.
* `overfull_zone_accepted`: A zone that no clock shows.
-/

namespace Attest

namespace Digits

/-- Digits of a fixed number that stand for a number. -/
structure IsField (n k : Nat) (ds : List Char) : Prop where
  /-- They are as many as they should be. -/
  length : ds.length = n
  /-- They are decimal digits. -/
  digits : ∀ d ∈ ds, isDigit d = true
  /-- This is the number. -/
  value : read ds = k

variable {ds rest : List Char}

theorem take?_eq_some_iff {n k : Nat} {cs : List Char} :
    take? n cs = some (k, rest) ↔ ∃ ds, cs = ds ++ rest ∧ IsField n k ds := by
  simp only [take?]
  constructor
  · intro h
    split at h
    · next hfield =>
        simp only [Option.some.injEq, Prod.mk.injEq] at h
        rcases h with ⟨hvalue, hrest⟩
        exact ⟨cs.take n, hrest ▸ (List.take_append_drop n cs).symm, hfield.1,
          List.all_eq_true.mp hfield.2, hvalue⟩
    · exact absurd h (by simp only [reduceCtorEq, not_false_eq_true])
  · rintro ⟨ds, rfl, h⟩
    have htake : (ds ++ rest).take n = ds := List.take_left' h.length
    have hdrop : (ds ++ rest).drop n = rest := List.drop_left' h.length
    simp only [htake, hdrop, h.length, h.value, List.all_eq_true.mpr h.digits, and_self, if_true]

theorem IsField.take?_append {n k : Nat} (h : IsField n k ds) (rest : List Char) :
    take? n (ds ++ rest) = some (k, rest) :=
  take?_eq_some_iff.mpr ⟨ds, rfl, h⟩

/-- To go on behind a field is to go on with its number and with what follows it. -/
theorem take?_bind_iff {α : Type} {n : Nat} {cs : List Char} {f : Nat × List Char → Option α}
    {a : α} : (take? n cs).bind f = some a ↔
      ∃ k ds rest, cs = ds ++ rest ∧ IsField n k ds ∧ f (k, rest) = some a := by
  simp only [Option.bind_eq_some_iff, Prod.exists, take?_eq_some_iff]
  constructor
  · rintro ⟨k, rest, ⟨ds, hcs, hds⟩, h⟩
    exact ⟨k, ds, rest, hcs, hds, h⟩
  · rintro ⟨k, ds, rest, hcs, hds, h⟩
    exact ⟨k, rest, ⟨ds, hcs, hds⟩, h⟩

theorem worth_lt {c : Char} (h : isDigit c = true) : worth c < 10 := by
  simp only [isDigit, Bool.and_eq_true, decide_eq_true_eq] at h
  have hlast : c.toNat ≤ '9'.toNat := h.2
  have hnine : '9'.toNat = 57 := rfl
  have hzero : '0'.toNat = 48 := rfl
  unfold worth
  omega

theorem read_concat (ds : List Char) (d : Char) : read (ds ++ [d]) = 10 * read ds + worth d := by
  simp only [read, List.foldl_append, List.foldl_cons, List.foldl_nil]

/-- Digits stand for less than the power of ten of their number. -/
theorem read_lt (h : ∀ d ∈ ds, isDigit d = true) : read ds < Nat.pow 10 ds.length := by
  induction ds using List.reverseRecOn with
  | nil => exact Nat.one_pos
  | append_singleton ds d ih =>
      rcases List.forall_mem_append.mp h with ⟨hfront, hlast⟩
      have hworth := worth_lt (hlast d (List.mem_singleton_self d))
      have hread := ih hfront
      have hpow : Nat.pow 10 (ds.length + 1) = 10 * Nat.pow 10 ds.length := Nat.pow_succ'
      rw [read_concat, List.length_append, List.length_singleton, hpow]
      omega

theorem span_append (h : ∀ d ∈ ds, isDigit d = true) (hrest : ∀ c ∈ rest.head?, isDigit c = false) :
    span (ds ++ rest) = (ds, rest) := by
  unfold span
  rw [List.takeWhile_append_of_pos h, List.dropWhile_append_of_pos h]
  cases rest with
  | nil => rw [List.takeWhile_nil, List.dropWhile_nil, List.append_nil]
  | cons c rest =>
      have hc : ¬ isDigit c = true := by
        rw [hrest c rfl]
        exact Bool.false_ne_true
      rw [List.takeWhile_cons_of_neg hc, List.dropWhile_cons_of_neg hc, List.append_nil]

end Digits

namespace Date

/-- A date, written: four, two and two digits that stand for a day of the calendar. -/
def IsText (cs : List Char) : Prop :=
  ∃ year month day, Calendar.HasDay year month day ∧ ∃ years months days,
    cs = years ++ '-' :: (months ++ '-' :: days) ∧ Digits.IsField 4 year years ∧
      Digits.IsField 2 month months ∧ Digits.IsField 2 day days

theorem of?_eq_some_iff {year month day : Nat} {d : Date} :
    of? year month day = some d ↔ d.year = year ∧ d.month = month ∧ d.day = day := by
  rcases d with ⟨y, m, n, hday⟩
  simp only [of?]
  constructor
  · intro h
    split at h
    · simp only [Option.some.injEq, Date.mk.injEq] at h
      exact ⟨h.1.symm, h.2.1.symm, h.2.2.symm⟩
    · exact absurd h (by simp only [reduceCtorEq, not_false_eq_true])
  · rintro ⟨rfl, rfl, rfl⟩
    exact dif_pos hday

/-- What is read off the front of a text as a date. -/
theorem exists_take?_iff {cs rest : List Char} :
    (∃ d, take? cs = some (d, rest)) ↔ ∃ date, cs = date ++ rest ∧ IsText date := by
  simp only [take?, Option.bind_eq_bind, Digits.take?_bind_iff]
  constructor
  · rintro ⟨d, year, years, after, rfl, hyears, h⟩
    split at h
    · next cs =>
        rw [Digits.take?_bind_iff] at h
        rcases h with ⟨month, months, after, rfl, hmonths, h⟩
        dsimp only at h
        split at h
        · next cs =>
            rw [Digits.take?_bind_iff] at h
            rcases h with ⟨day, days, after, rfl, hdays, h⟩
            rcases Option.bind_eq_some_iff.mp h with ⟨e, he, hrest⟩
            simp only [Option.some.injEq, Prod.mk.injEq] at hrest
            rcases hrest with ⟨rfl, rfl⟩
            rcases of?_eq_some_iff.mp he with ⟨rfl, rfl, rfl⟩
            refine ⟨years ++ '-' :: (months ++ '-' :: days), ?_, e.year, e.month, e.day,
              e.inCalendar, years, months, days, rfl, hyears, hmonths, hdays⟩
            simp only [List.append_assoc, List.cons_append]
        · exact absurd h (by simp only [reduceCtorEq, not_false_eq_true])
    · exact absurd h (by simp only [reduceCtorEq, not_false_eq_true])
  · rintro ⟨_, rfl, year, month, day, hday, years, months, days, rfl, hyears, hmonths, hdays⟩
    refine ⟨⟨year, month, day, hday⟩, year, years, '-' :: (months ++ '-' :: (days ++ rest)), ?_,
      hyears, ?_⟩
    · simp only [List.append_assoc, List.cons_append]
    · simp only [hmonths.take?_append, hdays.take?_append, Option.bind_some, of?, dif_pos hday]

end Date

namespace ZonedDateTime

section Time

/-- A fraction of a second, written: nothing, or a point and one to six digits. -/
def IsFraction (cs : List Char) : Prop :=
  cs = [] ∨ ∃ ds, cs = '.' :: ds ∧ 1 ≤ ds.length ∧ ds.length ≤ 6 ∧
    ∀ d ∈ ds, Digits.isDigit d = true

theorem nanosecond_lt {ds : List Char} (hdigits : ∀ d ∈ ds, Digits.isDigit d = true)
    (hlength : ds.length ≤ 6) : Digits.read ds * Nat.pow 10 (9 - ds.length) < 1000000000 := by
  have hpos : 0 < Nat.pow 10 (9 - ds.length) := Nat.pow_pos (by decide)
  calc Digits.read ds * Nat.pow 10 (9 - ds.length)
      < Nat.pow 10 ds.length * Nat.pow 10 (9 - ds.length) :=
        Nat.mul_lt_mul_of_pos_right (Digits.read_lt hdigits) hpos
    _ = Nat.pow 10 (ds.length + (9 - ds.length)) := (Nat.pow_add 10 _ _).symm
    _ = Nat.pow 10 9 := by rw [Nat.add_sub_cancel' (by omega)]

theorem fraction_of_takeFraction? {cs rest : List Char} {n : Nat}
    (h : takeFraction? cs = some (n, rest)) :
    ∃ fraction, cs = fraction ++ rest ∧ IsFraction fraction := by
  unfold takeFraction? at h
  split at h
  · next cs =>
      rcases hspan : Digits.span cs with ⟨ds, after⟩
      rw [hspan] at h
      dsimp only at h
      rcases Prod.mk.inj hspan with ⟨rfl, hafter⟩
      split at h
      · next hlength =>
          rcases Prod.mk.inj (Option.some.inj h) with ⟨_, hrest⟩
          have hdigits : ∀ d ∈ cs.takeWhile Digits.isDigit, Digits.isDigit d = true :=
            List.all_eq_true.mp List.all_takeWhile
          refine ⟨_, ?_, Or.inr ⟨_, rfl, hlength.1, hlength.2, hdigits⟩⟩
          rw [List.cons_append, ← hrest, ← hafter, List.takeWhile_append_dropWhile]
      · exact absurd h (by simp only [reduceCtorEq, not_false_eq_true])
  · exact ⟨[], (Prod.mk.inj (Option.some.inj h)).2, Or.inl rfl⟩

/-- A fraction is read as far as it goes, if what follows cannot be taken for a part of it. -/
theorem IsFraction.takeFraction?_append {fraction rest : List Char} (h : IsFraction fraction)
    (hrest : ∀ c ∈ rest.head?, Digits.isDigit c = false ∧ c ≠ '.') :
    ∃ n < 1000000000, takeFraction? (fraction ++ rest) = some (n, rest) := by
  rcases h with rfl | ⟨ds, rfl, hpos, hlength, hdigits⟩
  · refine ⟨0, by decide, ?_⟩
    unfold takeFraction?
    split
    · next cs hcs =>
        have hhead : '.' ∈ rest.head? := by
          rw [List.nil_append] at hcs
          rw [hcs]
          rfl
        exact absurd rfl (hrest '.' hhead).2
    · rfl
  · refine ⟨_, nanosecond_lt hdigits hlength, ?_⟩
    rw [List.cons_append]
    simp only [takeFraction?, Digits.span_append hdigits fun c hc => (hrest c hc).1]
    simp only [hpos, hlength, and_self, if_true]

/-- A time of day, written: two, two and two digits that a clock shows, and perhaps a fraction. -/
def IsTime (cs : List Char) : Prop :=
  ∃ hour minute second, (hour < 24 ∧ minute < 60 ∧ second < 60) ∧ ∃ hours minutes seconds fraction,
    cs = hours ++ ':' :: (minutes ++ ':' :: (seconds ++ fraction)) ∧ Digits.IsField 2 hour hours ∧
      Digits.IsField 2 minute minutes ∧ Digits.IsField 2 second seconds ∧ IsFraction fraction

theorem ranges_of_of? {hour minute second nanosecond : Nat} {t : TimeOfDay}
    (h : TimeOfDay.of? hour minute second nanosecond = some t) :
    hour < 24 ∧ minute < 60 ∧ second < 60 := by
  simp only [TimeOfDay.of?] at h
  split at h
  · next hranges => exact ⟨hranges.1, hranges.2.1, hranges.2.2.1⟩
  · exact absurd h (by simp only [reduceCtorEq, not_false_eq_true])

theorem time_of_takeTime? {cs rest : List Char} {t : TimeOfDay}
    (h : takeTime? cs = some (t, rest)) : ∃ time, cs = time ++ rest ∧ IsTime time := by
  simp only [takeTime?, Option.bind_eq_bind, Digits.take?_bind_iff] at h
  rcases h with ⟨hour, hours, after, rfl, hhours, h⟩
  split at h
  · next cs =>
      rw [Digits.take?_bind_iff] at h
      rcases h with ⟨minute, minutes, after, rfl, hminutes, h⟩
      dsimp only at h
      split at h
      · next cs =>
          rw [Digits.take?_bind_iff] at h
          rcases h with ⟨second, seconds, after, rfl, hseconds, h⟩
          simp only [Option.bind_eq_some_iff, Prod.exists, Option.some.injEq, Prod.mk.injEq] at h
          rcases h with ⟨nanosecond, _, htake, time, htime, rfl, rfl⟩
          rcases fraction_of_takeFraction? htake with ⟨fraction, rfl, hfraction⟩
          refine ⟨hours ++ ':' :: (minutes ++ ':' :: (seconds ++ fraction)), ?_, hour, minute,
            second, ranges_of_of? htime, hours, minutes, seconds, fraction, rfl, hhours, hminutes,
            hseconds, hfraction⟩
          simp only [List.append_assoc, List.cons_append]
      · exact absurd h (by simp only [reduceCtorEq, not_false_eq_true])
  · exact absurd h (by simp only [reduceCtorEq, not_false_eq_true])

theorem IsTime.takeTime?_append {time rest : List Char} (h : IsTime time)
    (hrest : ∀ c ∈ rest.head?, Digits.isDigit c = false ∧ c ≠ '.') :
    ∃ t, takeTime? (time ++ rest) = some (t, rest) := by
  rcases h with ⟨hour, minute, second, ⟨hhour, hminute, hsecond⟩, hours, minutes, seconds, fraction,
    rfl, hhours, hminutes, hseconds, hfraction⟩
  rcases hfraction.takeFraction?_append hrest with ⟨n, hn, htake⟩
  refine ⟨⟨hour, minute, second, n, hhour, hminute, hsecond, hn⟩, ?_⟩
  simp only [takeTime?, List.append_assoc, List.cons_append, hhours.take?_append,
    hminutes.take?_append, hseconds.take?_append, Option.bind_eq_bind, Option.bind_some, htake,
    TimeOfDay.of?, dif_pos (And.intro hhour (And.intro hminute (And.intro hsecond hn)))]

end Time

section Zone

/-- A zone, written: the letter `Z`, or a sign and two and two digits, whose numbers are within a
    range. -/
def IsZone (within : Nat → Nat → Prop) (cs : List Char) : Prop :=
  cs = ['Z'] ∨ ∃ sign hour minute hours minutes, cs = sign :: (hours ++ ':' :: minutes) ∧
    (sign = '+' ∨ sign = '-') ∧ Digits.IsField 2 hour hours ∧ Digits.IsField 2 minute minutes ∧
    within hour minute

/-- Hours and minutes that are shorter than a day. -/
def BelowDay (hour minute : Nat) : Prop :=
  60 * hour + minute < 24 * 60

/-- To go on behind a condition is to meet it and go on. -/
theorem guard_bind_iff {α : Type} {p : Prop} [Decidable p] {x : Option α} {a : α} :
    ((guard p : Option Unit).bind fun _ => x) = some a ↔ p ∧ x = some a := by
  unfold guard
  split
  · next hp => exact ⟨fun h => ⟨hp, h⟩, And.right⟩
  · next hp => exact ⟨fun h => absurd h (by simp only [failure, Option.bind_none, reduceCtorEq,
      not_false_eq_true]), fun h => absurd h.1 hp⟩

theorem zone_of_readZone? {cs : List Char} {offset : Int} (h : readZone? cs = some offset) :
    IsZone BelowDay cs := by
  unfold readZone? at h
  split at h
  · exact Or.inl rfl
  · next sign cs _ =>
      rw [Option.bind_eq_bind, guard_bind_iff, Option.bind_eq_bind, Digits.take?_bind_iff] at h
      rcases h with ⟨hsign, hour, hours, after, rfl, hhours, h⟩
      dsimp only at h
      split at h
      · next cs =>
          rw [Digits.take?_bind_iff] at h
          rcases h with ⟨minute, minutes, after, rfl, hminutes, h⟩
          split at h
          · next heq =>
              rcases Prod.mk.inj heq with ⟨rfl, rfl⟩
              rw [guard_bind_iff] at h
              refine Or.inr ⟨sign, hour, minute, hours, minutes, ?_, hsign, hhours, hminutes, ?_⟩
              · rw [List.append_nil]
              · -- The reader counts in seconds and asks nothing of the minutes on their own.
                have hbelow := h.1
                unfold BelowDay
                omega
          · exact absurd h (by simp only [reduceCtorEq, not_false_eq_true])
      · exact absurd h (by simp only [reduceCtorEq, not_false_eq_true])
  · exact absurd h (by simp only [reduceCtorEq, not_false_eq_true])

theorem IsZone.exists_readZone? {cs : List Char} (h : IsZone BelowDay cs) :
    ∃ offset, readZone? cs = some offset := by
  rcases h with rfl | ⟨sign, hour, minute, hours, minutes, rfl, hsign, hhours, hminutes, hbelow⟩
  · exact ⟨0, rfl⟩
  · have hdistance : (3600 * hour + 60 * minute : Int) < 86400 := by
      unfold BelowDay at hbelow
      omega
    refine ⟨if sign = '-' then -(3600 * hour + 60 * minute : Int) else 3600 * hour + 60 * minute,
      ?_⟩
    unfold readZone?
    split
    · -- The letter is no sign.
      next heq => exact absurd ((List.cons.inj heq).1 ▸ hsign) (by decide)
    · next heq =>
        rcases List.cons.inj heq with ⟨rfl, rfl⟩
        rw [Option.bind_eq_bind, guard_bind_iff, Option.bind_eq_bind, Digits.take?_bind_iff]
        refine ⟨hsign, hour, hours, _, rfl, hhours, ?_⟩
        refine Digits.take?_bind_iff.mpr ⟨minute, minutes, [], ?_, hminutes, ?_⟩
        · rw [List.append_nil]
        · exact guard_bind_iff.mpr ⟨hdistance, rfl⟩
    · next heq => exact absurd heq (by simp only [reduceCtorEq, not_false_eq_true])

/-- The zones that are read. -/
theorem exists_readZone?_iff {cs : List Char} :
    (∃ offset, readZone? cs = some offset) ↔ IsZone BelowDay cs :=
  ⟨fun ⟨_, h⟩ => zone_of_readZone? h, IsZone.exists_readZone?⟩

/-- A zone cannot be taken for a part of the fraction in front of it. -/
theorem IsZone.head_ne {within : Nat → Nat → Prop} {zone : List Char} (h : IsZone within zone) :
    ∀ c ∈ zone.head?, Digits.isDigit c = false ∧ c ≠ '.' := by
  rcases h with rfl | ⟨sign, _, _, _, _, rfl, rfl | rfl, _⟩
  all_goals
    rintro c hc
    rw [List.head?_cons, Option.mem_some_iff] at hc
    subst hc
    decide

/-- A zone is of a range or of another if its hours and minutes are. -/
theorem isZone_or_iff {within beyond : Nat → Nat → Prop} {cs : List Char} :
    IsZone (fun hour minute => within hour minute ∨ beyond hour minute) cs ↔
      IsZone within cs ∨ IsZone beyond cs := by
  constructor
  · rintro (rfl | ⟨sign, hour, minute, hours, minutes, hcs, hsign, hhours, hminutes, h | h⟩)
    · exact Or.inl (Or.inl rfl)
    · exact Or.inl (Or.inr ⟨sign, hour, minute, hours, minutes, hcs, hsign, hhours, hminutes, h⟩)
    · exact Or.inr (Or.inr ⟨sign, hour, minute, hours, minutes, hcs, hsign, hhours, hminutes, h⟩)
  · rintro (h | h)
    all_goals
      rcases h with rfl | ⟨sign, hour, minute, hours, minutes, hcs, hsign, hhours, hminutes, h⟩
      · exact Or.inl rfl
    · exact Or.inr ⟨sign, hour, minute, hours, minutes, hcs, hsign, hhours, hminutes, Or.inl h⟩
    · exact Or.inr ⟨sign, hour, minute, hours, minutes, hcs, hsign, hhours, hminutes, Or.inr h⟩

end Zone

section Text

/-- A point in time with a zone, written: a date, the letter `T`, a time of day and a zone whose
    hours and minutes are within a range. -/
def IsText (within : Nat → Nat → Prop) (cs : List Char) : Prop :=
  ∃ date time zone, cs = date ++ 'T' :: (time ++ zone) ∧ Date.IsText date ∧ IsTime time ∧
    IsZone within zone

/-- Hours and minutes as a clock shows them. -/
def OnClock (hour minute : Nat) : Prop :=
  hour < 24 ∧ minute < 60

/-- Hours with sixty minutes or more, together still shorter than a day. -/
def Overfull (hour minute : Nat) : Prop :=
  60 ≤ minute ∧ 60 * hour + minute < 24 * 60

theorem belowDay_iff {hour minute : Nat} :
    BelowDay hour minute ↔ OnClock hour minute ∨ Overfull hour minute := by
  unfold BelowDay OnClock Overfull
  omega

theorem isText_belowDay_iff {cs : List Char} :
    IsText BelowDay cs ↔ IsText OnClock cs ∨ IsText Overfull cs := by
  have hranges : BelowDay = fun hour minute => OnClock hour minute ∨ Overfull hour minute :=
    funext₂ fun _ _ => propext belowDay_iff
  simp only [IsText, hranges, isZone_or_iff, and_or_left, exists_or]

/-- A text names an instant exactly if it has the parts of one, with a zone below a day. -/
theorem isZonedDateTime_iff {s : String} :
    isZonedDateTime s = true ↔ IsText BelowDay s.toList := by
  simp only [isZonedDateTime, Option.isSome_iff_exists, read?, Option.bind_eq_bind]
  constructor
  · rintro ⟨instant, h⟩
    rcases Option.bind_eq_some_iff.mp h with ⟨⟨d, after⟩, htake, hbehind⟩
    rcases Date.exists_take?_iff.mp ⟨d, htake⟩ with ⟨date, hs, hdate⟩
    dsimp only at hbehind
    split at hbehind
    · next cs =>
        rcases Option.bind_eq_some_iff.mp hbehind with ⟨⟨t, zone⟩, htake, hlast⟩
        rcases time_of_takeTime? htake with ⟨time, rfl, htime⟩
        rcases Option.bind_eq_some_iff.mp hlast with ⟨offset, hzone, _⟩
        exact ⟨date, time, zone, hs, hdate, htime, exists_readZone?_iff.mp ⟨offset, hzone⟩⟩
    · exact absurd hbehind (by simp only [reduceCtorEq, not_false_eq_true])
  · rintro ⟨date, time, zone, hs, hdate, htime, hzone⟩
    -- What follows the time is no part of its fraction, so the time is read to its end.
    rcases Date.exists_take?_iff.mpr ⟨date, hs, hdate⟩ with ⟨d, hd⟩
    rcases htime.takeTime?_append hzone.head_ne with ⟨t, ht⟩
    rcases exists_readZone?_iff.mpr hzone with ⟨offset, hoffset⟩
    refine ⟨⟨d, t, some offset⟩, ?_⟩
    simp only [hd, ht, hoffset, Option.bind_some]

/-- A value names an instant exactly if it is a text with the parts of one and a zone that a clock
    shows, or one with sixty minutes or more that is still shorter than a day. -/
theorem isoDateTime_holds_iff (v : Value) :
    Primitive.isoDateTime.holds v = true ↔
      ∃ s, v = .text s ∧ (IsText OnClock s.toList ∨ IsText Overfull s.toList) := by
  simp only [Primitive.holds, ← isText_belowDay_iff, ← isZonedDateTime_iff]
  cases v with
  | text s => simp only [Value.isTextWith, Value.text.injEq, exists_eq_left']
  | _ => simp only [Value.isTextWith, Bool.false_eq_true, reduceCtorEq, false_and, exists_false]

/-- The last two characters of a text with a zone are the letter or its minutes. -/
theorem IsText.minutes_of_append {within : Nat → Nat → Prop} {front ds : List Char}
    (h : IsText within (front ++ ds)) (hlength : ds.length = 2) (hlast : ds.getLast? ≠ some 'Z') :
    ∃ hour, within hour (Digits.read ds) := by
  rcases h with ⟨date, time, zone, hcs, _, _, rfl | hzone⟩
  · refine absurd ?_ hlast
    have hend : (front ++ ds).getLast? = some 'Z' := by
      rw [hcs, ← List.cons_append, ← List.append_assoc, List.getLast?_append]
      rfl
    have hne : ds ≠ [] := List.ne_nil_of_length_eq_add_one hlength
    rwa [List.getLast?_append, List.getLast?_eq_some_getLast hne, Option.some_or,
      ← List.getLast?_eq_some_getLast hne] at hend
  · rcases hzone with ⟨sign, hour, minute, hours, minutes, rfl, _, _, hminutes, hwithin⟩
    have hends : front ++ ds = (date ++ 'T' :: (time ++ sign :: (hours ++ [':']))) ++ minutes := by
      simp only [hcs, List.append_assoc, List.cons_append, List.nil_append]
    rcases List.append_inj' hends (hlength.trans hminutes.length.symm) with ⟨_, rfl⟩
    exact ⟨hour, hminutes.value ▸ hwithin⟩

/-- No clock shows seventy-five minutes, but they may stand in a zone. -/
theorem overfull_zone_accepted :
    Primitive.isoDateTime.holds (.text "2024-01-01T00:00:00+05:75") = true ∧
      ¬ IsText OnClock "2024-01-01T00:00:00+05:75".toList := by
  refine ⟨by decide, fun h => ?_⟩
  have hsplit : "2024-01-01T00:00:00+05:75".toList =
      "2024-01-01T00:00:00+05:".toList ++ ['7', '5'] := by decide
  rw [hsplit] at h
  rcases h.minutes_of_append rfl (by decide) with ⟨hour, hclock⟩
  exact absurd hclock.2 (by decide)

end Text

end ZonedDateTime

end Attest
