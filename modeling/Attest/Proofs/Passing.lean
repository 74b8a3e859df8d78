import Attest.Proofs.Acceptance

/-!
# Passing

What it takes to pass, one container at a time.

Whether a run passes is asked more often than what it reports, and the answer needs no order:
a container passes if its own questions are answered with yes and its parts pass. The module
on acceptance says so for trees that decide; here nothing is asked of the tree, so a part may
be anything, a function from outside included, and all that is known of it is whether it
passes. Each equivalence below opens one container and leaves its parts closed.

The loops over parts come as laws of their own: a loop over parts that pass under one check
passes under every other check that they pass under, and the entries of a schema can be looked
at one at a time, wherever they stand.

## Theorems

* `eq_of_text_isSameKey`: The only key that is the same as a text is the text.
* `objectEntries_ok_iff`, `recordEntries_ok_iff`, `arrayItems_ok_iff`: What has entries or items.
* `runBoundedText_passes_iff`, `runNames_passes_iff`: The rules of texts and of names.
* `run_schema_passes_iff`, `run_object_passes_iff`, `run_array_passes_iff`,
  `run_record_passes_iff`: What it takes to pass a container.
* `run_fallback_of_part`: What passes as a part passes behind an accepted value.
* `runElements_mono`, `runEntries_mono`: Loops under a check that passes more.
* `runFields_append`, `runField_passes_iff`: The entries of a schema, one at a time.
* `runCrossField_exchange`, `runCrossField_skip`: The cross-field entry among the others.
-/

namespace Attest

namespace Value

theorem eq_of_text_isSameKey {s : String} {v : Value} (h : (text s).isSameKey v = true) :
    text s = v := by
  cases v with
  | text t =>
      simp only [isSameKey, decide_eq_true_eq] at h
      rw [h]
  | _ => exact absurd h (by simp [isSameKey, isSame, sameWorth, worth?])

end Value

namespace Assertion

variable {factory : ErrorFactory} {v : Value} {c : Context}

theorem objectEntries_ok_iff {entries : List (Value × Value)} :
    (objectEntries v c factory).result = .ok entries ↔ v.mapping? = some entries := by
  rcases hv : v.mapping? with _ | own
  · rcases objectEntries_of_not_mapping hv with ⟨message, hrefused⟩
    rw [hrefused]
    exact ⟨fun h => absurd h (Check.fail_ne_ok _ _ _ _),
      fun h => absurd h (by simp only [reduceCtorEq, not_false_eq_true])⟩
  · rw [objectEntries_of_mapping hv]
    simp only [Check.pure_apply, Except.ok.injEq, Option.some.injEq]

theorem recordEntries_ok_iff {entries : List (Value × Value)} :
    (recordEntries v c factory).result = .ok entries ↔ v.mapping? = some entries := by
  rcases hv : v.mapping? with _ | own
  · rw [recordEntries_of_not_mapping hv]
    exact ⟨fun h => absurd h (Check.fail_ne_ok _ _ _ _),
      fun h => absurd h (by simp only [reduceCtorEq, not_false_eq_true])⟩
  · rw [recordEntries_of_mapping hv]
    simp only [Check.pure_apply, Except.ok.injEq, Option.some.injEq]

/-- An array has items if nothing is wrong with their number and they are as different as they
    have to be. -/
theorem arrayItems_ok_iff {rules : ArrayRules} {items : List Value} :
    (arrayItems rules v c factory).result = .ok items ↔
      v.array? = some items ∧ rules.bounds.judge items.length = .ok none ∧
        ∀ identity, rules.identity = some identity →
          (hasUniqueElements v identity factory).result = .ok true := by
  unfold arrayItems
  rcases v.array? with _ | own
  · exact ⟨fun h => absurd h (Check.fail_ne_ok _ _ _ _),
      fun h => absurd h.1 (by simp only [reduceCtorEq, not_false_eq_true])⟩
  · simp only [Check.bind_ok_iff, Check.ofExcept_ok_iff, Option.some.injEq]
    constructor
    · -- Of the verdicts on the length only the first one lets the run go on.
      rintro ⟨_ | broken, hjudge, h⟩
      · rcases hrules : rules.identity with _ | identity
        · rw [hrules] at h
          have hitems : own = items := Except.ok.inj h
          exact ⟨hitems, hitems ▸ hjudge, fun _ hno => absurd hno (by simp only [reduceCtorEq,
            not_false_eq_true])⟩
        · simp only [hrules, Check.bind_ok_iff] at h
          rcases h with ⟨unique, hunique, h⟩
          cases unique with
          | true =>
              have hitems : own = items := Except.ok.inj h
              exact ⟨hitems, hitems ▸ hjudge, fun _ hother => Option.some.inj hother ▸ hunique⟩
          | false => exact absurd h (Check.fail_ne_ok _ _ _ _)
      · exact absurd h (Check.fail_ne_ok _ _ _ _)
    · rintro ⟨rfl, hjudge, hunique⟩
      refine ⟨none, hjudge, ?_⟩
      rcases hrules : rules.identity with _ | identity
      · rfl
      · simp only [Check.bind_ok_iff]
        exact ⟨true, hunique identity hrules, rfl⟩

theorem runBoundedText_passes_iff {bounds : Bounds} :
    (runBoundedText bounds v c factory).result = .ok () ↔
      ∃ s, v = .text s ∧ bounds.judge s.length = .ok none := by
  have hstring : (Primitive.string.run v c factory).result = .ok () ↔ v.isText = true :=
    (primitive_decides (H := False) (W := False) False.elim .string False.elim).passes_iff
  unfold runBoundedText
  simp only [Check.bind_ok_iff, Check.ofExcept_ok_iff]
  constructor
  · rintro ⟨⟨⟩, hpass, n, hlength, broken, hjudge, h⟩
    rcases Value.eq_text_of_isText (hstring.mp hpass) with ⟨s, rfl⟩
    have hn : s.length = n := Except.ok.inj hlength
    rcases broken with _ | broken
    · exact ⟨s, rfl, hn ▸ hjudge⟩
    · exact absurd h (Check.fail_ne_ok _ _ _ _)
  · rintro ⟨s, rfl, hjudge⟩
    exact ⟨(), hstring.mpr rfl, s.length, rfl, none, hjudge, rfl⟩

/-- The names of an object pass if what is allowed is a collection of keys, where it matters,
    and each name is declared or allowed. -/
theorem runNames_passes_iff {form : SchemaForm} {fields : List (Value × Assertion)}
    {rules : ObjectRules} {entries : List (Value × Value)} :
    (runNames (schema form fields).declares rules entries c factory).result = .ok () ↔
      rules.AllowKeys ∧ NamesKept fields rules entries := by
  have hdecides : rules.AllowKeys →
      ((runNames (schema form fields).declares rules entries c factory).result = .ok () ↔
        NamesKept fields rules entries) := fun hrules =>
    (runNames_decides (H := False) (W := False) False.elim hrules False.elim).passes_iff
  refine ⟨fun h => ?_, fun h => (hdecides h.1).mpr h.2⟩
  -- A run that passes has taken the allowed names apart and found them to be keys.
  have hrules : rules.AllowKeys := by
    intro hstrict
    unfold runNames at h
    simp only [if_pos hstrict, Check.bind_ok_iff, Check.ofExcept_ok_iff] at h
    rcases h with ⟨names, hnames, _, hkeys, _⟩
    exact ⟨names, hnames, hkeys⟩
  exact ⟨hrules, (hdecides hrules).mp h⟩

section Containers

variable {position : Position}

/-- A schema passes a mapping whose fields pass, and then the cross-field entry. It is not
    called. -/
theorem run_schema_passes_iff {form : SchemaForm} {fields : List (Value × Assertion)} :
    ((schema form fields).run position v c factory).result = .ok () ↔
      (position = .part ∨ position = .fallback) ∧ ∃ entries, v.mapping? = some entries ∧
        (runFields fields entries c factory).result = .ok () ∧
        (runCrossField fields v c factory).result = .ok () := by
  have hentries : ((objectEntries v c >>= fun entries => runFields fields entries c >>= fun _ =>
      runCrossField fields v c) factory).result = .ok () ↔
        ∃ entries, v.mapping? = some entries ∧ (runFields fields entries c factory).result = .ok () ∧
          (runCrossField fields v c factory).result = .ok () := by
    simp only [Check.bind_ok_iff, objectEntries_ok_iff]
    exact exists_congr fun entries => and_congr_right fun _ =>
      ⟨fun ⟨_, hfields, hcross⟩ => ⟨hfields, hcross⟩, fun ⟨hfields, hcross⟩ => ⟨(), hfields, hcross⟩⟩
  cases position with
  | part =>
      simp only [run, true_or, true_and]
      -- What is refused as an array would be refused as no mapping a step later.
      by_cases hv : v.isArray = true
      · simp only [hv, if_true, Context.failBehind_bind, Value.mapping?_of_isArray hv, reduceCtorEq,
          false_and, exists_false, iff_false]
        exact Check.fail_ne_ok _ _ _ _
      · simp only [hv, Bool.false_eq_true, if_false]
        exact hentries
  | fallback =>
      simp only [run, or_true, true_and]
      exact hentries
  | called =>
      refine ⟨fun h => absurd h ?_, fun h => absurd h.1 (by simp only [reduceCtorEq, or_self,
        not_false_eq_true])⟩
      simp only [run, Check.raise_bind, Check.raise, reduceCtorEq, not_false_eq_true]
  | direct =>
      refine ⟨fun h => absurd h ?_, fun h => absurd h.1 (by simp only [reduceCtorEq, or_self,
        not_false_eq_true])⟩
      simp only [run, Check.raise_bind, Check.raise, reduceCtorEq, not_false_eq_true]

/-- An object passes a mapping whose names keep its rules and that passes the schema, at the own
    place of the object if it has one. -/
theorem run_object_passes_iff {form : SchemaForm} {fields : List (Value × Assertion)}
    {own : Option Provider} {rules : ObjectRules} :
    ((object (schema form fields) own rules).run position v c factory).result = .ok () ↔
      ∃ entries, v.mapping? = some entries ∧ rules.AllowKeys ∧ NamesKept fields rules entries ∧
        ((schema form fields).run .fallback v (placeOf own c) factory).result = .ok () := by
  simp only [run_schema_passes_iff, or_true, true_and]
  simp only [run, Check.bind_ok_iff, objectEntries_ok_iff]
  constructor
  · rintro ⟨entries, hv, ⟨⟩, hkept, ⟨⟩, hfields, hcross⟩
    rcases runNames_passes_iff.mp hkept with ⟨hrules, hnames⟩
    exact ⟨entries, hv, hrules, hnames, entries, hv, hfields, hcross⟩
  · rintro ⟨entries, hv, hrules, hnames, others, hothers, hfields, hcross⟩
    rw [hv, Option.some.injEq] at hothers
    exact ⟨entries, hv, (), runNames_passes_iff.mpr ⟨hrules, hnames⟩, (), hothers ▸ hfields, hcross⟩

/-- An object of anything but a schema passes nothing. -/
theorem schema_of_run_object_passes {inner : Assertion} {own : Option Provider}
    {rules : ObjectRules} (h : ((object inner own rules).run position v c factory).result = .ok ()) :
    ∃ form fields, inner = schema form fields := by
  cases inner with
  | schema form fields => exact ⟨form, fields, rfl⟩
  | _ =>
      simp only [run, Check.bind_ok_iff] at h
      rcases h with ⟨_, _, _, _, hraise⟩
      exact absurd hraise (by simp only [Check.raise, reduceCtorEq, not_false_eq_true])

/-- An array is checked by its items, and then by the checks of these. -/
theorem run_array (element : Assertion) (rules : ArrayRules) (position : Position) (v : Value)
    (c : Context) :
    (array element rules).run position v c =
      (arrayItems rules v c >>= fun items => runElements (element.run .part) c 0 items) := by
  simp only [run]

theorem run_array_passes_iff {element : Assertion} {rules : ArrayRules} :
    ((array element rules).run position v c factory).result = .ok () ↔
      ∃ items, (arrayItems rules v c factory).result = .ok items ∧
        (runElements (element.run .part) c 0 items factory).result = .ok () := by
  rw [run_array, Check.bind_ok_iff]

theorem runIfPresent_some (a : Assertion) (position : Position) (v : Value) (c : Context) :
    runIfPresent (runIfAny (some a) position) v c = a.run position v c := by
  simp only [runIfAny, runIfPresent]

theorem run_record_passes_iff {item : Assertion} {key : Option Assertion}
    {keyField : Option String} {crossField : Option Assertion} :
    ((record item key keyField crossField).run position v c factory).result = .ok () ↔
      ∃ entries, v.mapping? = some entries ∧
        (runEntries (runIfAny key .part) (item.run .part) keyField c entries factory).result =
          .ok () ∧
        (runIfPresent (runIfAny crossField .direct) v c factory).result = .ok () := by
  simp only [run, Check.bind_ok_iff, recordEntries_ok_iff]
  refine exists_congr fun entries => and_congr_right fun _ => ?_
  constructor
  · rintro ⟨_, hentries, hcross⟩
    exact ⟨hentries, hcross⟩
  · rintro ⟨hentries, hcross⟩
    exact ⟨(), hentries, hcross⟩

theorem run_valueOr_passes_iff {expected : Value} {fallback : Assertion} :
    ((valueOr expected fallback).run position v c factory).result = .ok () ↔
      v.strictEq expected = true ∨ (fallback.run .fallback v c factory).result = .ok () := by
  simp only [run]
  by_cases h : v.strictEq expected = true
  · simp only [h, if_true, Check.pure_apply, true_or]
  · simp only [h, Bool.false_eq_true, if_false, false_or]

/-- What passes as a part passes behind an accepted value too. Only a schema is asked one
    question less there, whose answer is known. -/
theorem run_fallback_of_part {a : Assertion} (h : (a.run .part v c factory).result = .ok ()) :
    (a.run .fallback v c factory).result = .ok () := by
  cases a with
  | schema form fields =>
      rw [run_schema_passes_iff] at h ⊢
      exact ⟨Or.inr rfl, h.2⟩
  | object inner own rules =>
      rcases schema_of_run_object_passes h with ⟨form, fields, rfl⟩
      rwa [run_object_passes_iff] at h ⊢
  | array element rules => rwa [run_array_passes_iff] at h ⊢
  | record item key keyField crossField => rwa [run_record_passes_iff] at h ⊢
  | valueOr expected fallback => rwa [run_valueOr_passes_iff] at h ⊢
  | value w =>
      simp only [run] at h ⊢
      rcases hw : w.asCallable? with _ | f
      · rw [hw] at h
        exact absurd h (Check.fail_ne_ok _ _ _ _)
      · rwa [hw] at h
  | _ => exact h

end Containers

section Loops

/-- A loop over elements under a check that passes each one that another check passes. -/
theorem runElements_mono {check other : Value → Context → Check Unit} {items : List Value}
    (h : ∀ item ∈ items, ∀ c, (check item c factory).result = .ok () →
      (other item c factory).result = .ok ()) (index : Nat)
    (hpass : (runElements check c index items factory).result = .ok ()) :
    (runElements other c index items factory).result = .ok () := by
  induction items generalizing index with
  | nil => rfl
  | cons item items ih =>
      rcases List.forall_mem_cons.mp h with ⟨hitem, hitems⟩
      simp only [runElements, Check.andThen_passes_iff] at hpass ⊢
      exact ⟨hitem _ hpass.1, ih hitems (index + 1) hpass.2⟩

/-- A loop over entries under checks that pass each key, item and repetition of a key that other
    ones pass. -/
theorem runEntries_mono {checkKey otherKey : Option (Value → Context → Check Unit)}
    {check other : Value → Context → Check Unit} {keyField otherField : Option String}
    {entries : List (Value × Value)}
    (hkey : ∀ entry ∈ entries, ∀ c, (runIfPresent checkKey entry.1 c factory).result = .ok () →
      (runIfPresent otherKey entry.1 c factory).result = .ok ())
    (hitem : ∀ entry ∈ entries, ∀ c, (check entry.2 c factory).result = .ok () →
      (other entry.2 c factory).result = .ok ())
    (hfield : otherField = keyField ∨ otherField = none)
    (hpass : (runEntries checkKey check keyField c entries factory).result = .ok ()) :
    (runEntries otherKey other otherField c entries factory).result = .ok () := by
  induction entries with
  | nil => rfl
  | cons entry entries ih =>
      rcases entry with ⟨key, item⟩
      rcases List.forall_mem_cons.mp hkey with ⟨hkeyHere, hkeys⟩
      rcases List.forall_mem_cons.mp hitem with ⟨hitemHere, hitems⟩
      simp only [runEntries_cons, Check.andThen_passes_iff] at hpass ⊢
      rcases hpass with ⟨hkeyPass, hitemPass, hfieldPass, hrest⟩
      refine ⟨hkeyHere _ hkeyPass, hitemHere _ hitemPass, ?_, ih hkeys hitems hrest⟩
      rcases hfield with rfl | rfl
      · exact hfieldPass
      · rfl

end Loops

section Fields

/-- Another text is not the key of the cross-field entry. -/
theorem isCrossField_of_ne {s : String} (h : s ≠ crossFieldKey) :
    isCrossField (.text s) = .ok false := by
  have hanswer : isCrossField (.text s) = .ok (decide (s = crossFieldKey)) := rfl
  rw [hanswer, decide_eq_false h]

theorem runFields_append (front back : List (Value × Assertion)) (entries : List (Value × Value))
    (c : Context) :
    runFields (front ++ back) entries c =
      (runFields front entries c >>= fun _ => runFields back entries c) := by
  induction front with
  | nil => simp only [List.nil_append, runFields, pure_bind]
  | cons field front ih =>
      rcases field with ⟨key, a⟩
      simp only [List.cons_append, runFields, ih, bind_assoc]
      congr 1
      funext found
      cases found with
      | false => simp only [Bool.false_eq_true, if_false, bind_assoc]
      | true =>
          by_cases ha : a.isCallable = true
          · simp only [ha, if_true]
          · simp only [ha, Bool.false_eq_true, if_true, if_false, Context.failBehind_bind]

/-- A single entry of a schema passes if the field that it names does, or if it is the cross-field
    entry and a function. -/
theorem runField_passes_iff {key : Value} {a : Assertion} {entries : List (Value × Value)} :
    (runFields [(key, a)] entries c factory).result = .ok () ↔
      (isCrossField key = .ok false ∧
        (a.run .part (Entries.get entries key) (.field c key) factory).result = .ok ()) ∨
      isCrossField key = .ok true ∧ a.isCallable = true := by
  simp only [runFields, bind_pure_unit]
  rcases hkey : isCrossField key with f | found
  · simp only [Check.ofExcept_error, Check.raise_bind, Check.raise, reduceCtorEq, false_and,
      or_self]
  · cases found with
    | false =>
        simp only [Check.ofExcept_ok, pure_bind, Bool.false_eq_true, if_false, true_and,
          Except.ok.injEq, Bool.false_eq_true, false_and, or_false]
    | true =>
        simp only [Check.ofExcept_ok, pure_bind, if_true, Except.ok.injEq, Bool.true_eq_false,
          false_and, true_and, false_or]
        by_cases ha : a.isCallable = true
        · simp only [ha, if_true, Check.pure_apply]
        · simp only [ha, Bool.false_eq_true, if_false, iff_false]
          exact Check.fail_ne_ok _ _ _ _

/-- Fields pass if one of them does, wherever it stands, and those in front of it and behind it. -/
theorem runFields_split {front back : List (Value × Assertion)} {field : Value × Assertion}
    {entries : List (Value × Value)} :
    (runFields (front ++ field :: back) entries c factory).result = .ok () ↔
      (runFields front entries c factory).result = .ok () ∧
        (runFields [field] entries c factory).result = .ok () ∧
        (runFields back entries c factory).result = .ok () := by
  have hfield : field :: back = [field] ++ back := rfl
  rw [hfield, runFields_append, runFields_append, Check.andThen_passes_iff,
    Check.andThen_passes_iff]

/-- Where fields pass, no key refuses to be compared with the one of the cross-field entry. -/
theorem isCrossField_of_runFields {fields : List (Value × Assertion)}
    {entries : List (Value × Value)} (h : (runFields fields entries c factory).result = .ok ()) :
    ∀ field ∈ fields, ∃ found, isCrossField field.1 = .ok found := by
  intro field hmem
  rcases List.append_of_mem hmem with ⟨front, back, rfl⟩
  rcases runField_passes_iff.mp (runFields_split.mp h).2.1 with hkey | hkey
  · exact ⟨false, hkey.1⟩
  · exact ⟨true, hkey.1⟩

/-- An entry may be exchanged for one that passes wherever it is called with the whole object. -/
theorem runCrossField_exchange {key : Value} {a b : Assertion}
    (h : isCrossField key = .ok true → (a.run .direct v c factory).result = .ok () →
      (b.run .direct v c factory).result = .ok ()) (front : List (Value × Assertion))
    {back : List (Value × Assertion)}
    (hpass : (runCrossField (front ++ (key, a) :: back) v c factory).result = .ok ()) :
    (runCrossField (front ++ (key, b) :: back) v c factory).result = .ok () := by
  induction front with
  | nil =>
      simp only [List.nil_append, runCrossField, Check.bind_ok_iff, Check.ofExcept_ok_iff]
        at hpass ⊢
      rcases hpass with ⟨found, hfound, hpass⟩
      refine ⟨found, hfound, ?_⟩
      split at hpass
      · next hlast =>
          rw [if_pos hlast]
          simp only [Bool.and_eq_true] at hlast
          exact h (hlast.1 ▸ hfound) hpass
      · next hlast =>
          rw [if_neg hlast]
          exact hpass
  | cons field front ih =>
      rcases field with ⟨other, d⟩
      -- Which entry is the last one depends on the keys alone.
      have hlast : ((front ++ (key, b) :: back).all fun field =>
          (isCrossField field.1).toOption ≠ some true) =
            (front ++ (key, a) :: back).all fun field =>
              (isCrossField field.1).toOption ≠ some true := by
        simp only [List.all_append, List.all_cons]
      simp only [List.cons_append, runCrossField, Check.bind_ok_iff, Check.ofExcept_ok_iff, hlast]
        at hpass ⊢
      rcases hpass with ⟨found, hfound, hpass⟩
      refine ⟨found, hfound, ?_⟩
      split at hpass
      · next hhere =>
          rw [if_pos hhere]
          exact hpass
      · next hhere =>
          rw [if_neg hhere]
          exact ih hpass

/-- An entry that is not the cross-field entry is passed over. -/
theorem runCrossField_skip {key : Value} (hkey : isCrossField key = .ok false) (a : Assertion)
    (front back : List (Value × Assertion)) (v : Value) (c : Context) :
    runCrossField (front ++ (key, a) :: back) v c = runCrossField (front ++ back) v c := by
  induction front with
  | nil =>
      simp only [List.nil_append, runCrossField, hkey, Check.ofExcept_ok, pure_bind,
        Bool.false_and, Bool.false_eq_true, if_false]
  | cons field front ih =>
      rcases field with ⟨other, d⟩
      have hlast : ((front ++ (key, a) :: back).all fun field =>
          (isCrossField field.1).toOption ≠ some true) =
            (front ++ back).all fun field => (isCrossField field.1).toOption ≠ some true := by
        simp [List.all_append, List.all_cons, hkey, Except.toOption]
      simp only [List.cons_append, runCrossField, hlast, ih]

end Fields

end Assertion

end Attest
