import Attest.Proofs.Traversal

/-!
# Visits

What holds of every visit of a run.

A property of the nodes of a tree says something about a run only through the visits
that the run makes. `Everywhere` spreads such a property over a tree, and
`visits_induction` brings it to the visits: what holds of a check at the start of a run,
and survives being put below a step or within an object, holds of every visit. This is
the one induction over trees and values together. The theorems about what is visited,
where it stands and what it costs are instances of it.

`Step.Leads` follows a step in the data. It says what the value behind a step is without
mentioning a tree, so that a place can be read as an address: `visits_lead` finds the
value of every visit at the end of its path.

## Main definitions

* `Assertion.Everywhere`: A property holds at every node of a tree.
* `Step.Leads`: A step leads from a value to one of its parts.
* `Leads`: A path leads from a value to a part of a part.
* `Value.Throughout`: Every mapping in a value has entries with a property.
* `Inspection.Stems`: A check stems from nodes with a property.

## Theorems

* `throughout_iff`: What holds throughout a value, and throughout its parts.
* `visits_induction`: What every visit of a run has in common.
* `visits_stem`: The checks of a run stem from the nodes of its tree.
* `visits_own`: The own places of visits are those of the objects of the tree.
* `visits_lead`: The path of a visit leads to its value.
* `runVisits_cases`: Either every visit passes, or there is a first one that does not.
-/

namespace Attest

namespace Assertion

mutual

/-- A property holds at every node of a tree. -/
def Everywhere (P : Assertion → Prop) : Assertion → Prop
  | schema form fields => P (schema form fields) ∧ EverywhereInFields P fields
  | object inner own rules => P (object inner own rules) ∧ Everywhere P inner
  | array element rules => P (array element rules) ∧ Everywhere P element
  | record item key keyField crossField =>
    P (record item key keyField crossField) ∧ Everywhere P item ∧ EverywhereIfAny P key ∧
      EverywhereIfAny P crossField
  | valueOr expected fallback => P (valueOr expected fallback) ∧ Everywhere P fallback
  | a => P a

/-- A property holds at every node of the entries of a schema. -/
def EverywhereInFields (P : Assertion → Prop) : List (Value × Assertion) → Prop
  | [] => True
  | (_, a) :: fields => Everywhere P a ∧ EverywhereInFields P fields

/-- A property holds at every node of a tree that may be absent. -/
def EverywhereIfAny (P : Assertion → Prop) : Option Assertion → Prop
  | none => True
  | some a => Everywhere P a

end

theorem everywhere_of_mem {P : Assertion → Prop} {fields : List (Value × Assertion)}
    (h : EverywhereInFields P fields) :
    ∀ field ∈ fields, field.2.Everywhere P := by
  induction fields with
  | nil => exact fun field hmem => absurd hmem List.not_mem_nil
  | cons field fields ih => exact List.forall_mem_cons.mpr ⟨h.1, ih h.2⟩

end Assertion

/-- A step leads from a value to one of its parts. A field that an object does not have is
    the value that does not exist. -/
def Step.Leads (v w : Value) : Step → Prop
  | field key => ∃ entries, v.mapping? = some entries ∧ w = Entries.get entries key
  | element index => ∃ items, v.array? = some items ∧ items[index]? = some w
  | item key => ∃ entries, v.mapping? = some entries ∧ (key, w) ∈ entries
  | keyOf key => ∃ entries item, v.mapping? = some entries ∧ (key, item) ∈ entries ∧ w = key

/-- A path leads from a value to a part of a part. -/
inductive Leads : Value → List Step → Value → Prop
  | here (v : Value) : Leads v [] v
  | further {u v w : Value} {step : Step} {path : List Step} (h : step.Leads u v)
      (hrest : Leads v path w) : Leads u (step :: path) w

/-- A step leads to a key or an item of a mapping, to an item of an array, or to the field that a
    mapping does not have. -/
theorem Step.Leads.isPart {v w : Value} {step : Step} (h : step.Leads v w) :
    (∃ entries, v.mapping? = some entries ∧
      (w = .undefined ∨ ∃ entry ∈ entries, w = entry.1 ∨ w = entry.2)) ∨
    ∃ items, v.array? = some items ∧ w ∈ items := by
  cases step with
  | field key =>
      rcases h with ⟨entries, hv, rfl⟩
      refine Or.inl ⟨entries, hv, ?_⟩
      unfold Entries.get Entries.find?
      rcases hfind : entries.find? fun entry => entry.1.isSameKey key with _ | entry
      · exact Or.inl (by rw [hfind]; rfl)
      · exact Or.inr ⟨entry, List.mem_of_find?_eq_some hfind, Or.inr (by rw [hfind]; rfl)⟩
  | element index =>
      rcases h with ⟨items, hv, hindex⟩
      exact Or.inr ⟨items, hv, List.mem_of_getElem? hindex⟩
  | item key =>
      rcases h with ⟨entries, hv, hmem⟩
      exact Or.inl ⟨entries, hv, Or.inr ⟨(key, w), hmem, Or.inr rfl⟩⟩
  | keyOf key =>
      rcases h with ⟨entries, item, hv, hmem, rfl⟩
      exact Or.inl ⟨entries, hv, Or.inr ⟨(w, item), hmem, Or.inl rfl⟩⟩

namespace Value

/-- Every mapping has entries with a property, the value itself and all parts of it. -/
def Throughout (P : List (Value × Value) → Prop) (v : Value) : Prop :=
  ∀ path w entries, Leads v path w → w.mapping? = some entries → P entries

variable {P : List (Value × Value) → Prop} {v : Value}

/-- What holds throughout a value holds of its own entries, and throughout all parts. -/
theorem throughout_iff :
    v.Throughout P ↔ (∀ entries, v.mapping? = some entries → P entries) ∧
      ∀ step w, Step.Leads v w step → w.Throughout P := by
  constructor
  · intro h
    refine ⟨fun entries => h [] v entries (Leads.here v),
      fun step w hstep path u entries hrest => ?_⟩
    exact h (step :: path) u entries (Leads.further hstep hrest)
  · rintro ⟨hown, hparts⟩ path w entries hleads
    cases hleads with
    | here => exact hown entries
    | further hstep hrest => exact hparts _ _ hstep _ w entries hrest

/-- What has no parts has nothing in it. -/
theorem throughout_of_scalar (hmapping : v.mapping? = none) (harray : v.array? = none) :
    v.Throughout P := by
  refine throughout_iff.mpr ⟨fun entries h => ?_, fun step w hstep => ?_⟩
  · exact absurd (hmapping.symm.trans h) (by simp only [reduceCtorEq, not_false_eq_true])
  · rcases hstep.isPart with ⟨entries, h, _⟩ | ⟨items, h, _⟩
    · exact absurd (hmapping.symm.trans h) (by simp only [reduceCtorEq, not_false_eq_true])
    · exact absurd (harray.symm.trans h) (by simp only [reduceCtorEq, not_false_eq_true])

theorem throughout_of_mapping {entries : List (Value × Value)} (hv : v.mapping? = some entries)
    (hown : P entries)
    (hparts : ∀ entry ∈ entries, entry.1.Throughout P ∧ entry.2.Throughout P) :
    v.Throughout P := by
  have harray : v.array? = none := by
    cases v <;> simp only [mapping?, reduceCtorEq] at hv <;> rfl
  refine throughout_iff.mpr ⟨fun others hothers => ?_, fun step w hstep => ?_⟩
  · rw [hv, Option.some.injEq] at hothers
    exact hothers ▸ hown
  · rcases hstep.isPart with ⟨others, hothers, hpart⟩ | ⟨items, hitems, _⟩
    · rw [hv, Option.some.injEq] at hothers
      subst hothers
      rcases hpart with rfl | ⟨entry, hmem, rfl | rfl⟩
      · exact throughout_of_scalar rfl rfl
      · exact (hparts entry hmem).1
      · exact (hparts entry hmem).2
    · exact absurd (harray.symm.trans hitems) (by simp only [reduceCtorEq, not_false_eq_true])

theorem throughout_of_array {items : List Value} (hv : v.array? = some items)
    (hitems : ∀ item ∈ items, item.Throughout P) : v.Throughout P := by
  have hmapping : v.mapping? = none := by
    cases v <;> simp only [array?, reduceCtorEq] at hv <;> rfl
  refine throughout_iff.mpr ⟨fun others hothers => ?_, fun step w hstep => ?_⟩
  · exact absurd (hmapping.symm.trans hothers) (by simp only [reduceCtorEq, not_false_eq_true])
  · rcases hstep.isPart with ⟨others, hothers, _⟩ | ⟨others, hothers, hmem⟩
    · exact absurd (hmapping.symm.trans hothers) (by simp only [reduceCtorEq, not_false_eq_true])
    · rw [hv, Option.some.injEq] at hothers
      exact hitems w (hothers ▸ hmem)

end Value

/-- A property of visits, made on a value, that holds at the nodes of a tree with a property,
    and survives a step and an object around it. -/
structure Inherited (P : Assertion → Prop) (R : Value → Visit → Prop) : Prop where
  /-- It holds of the own checks of nodes. -/
  node : ∀ {a : Assertion} {position : Position} {v : Value}, P a →
    R v (.here (.node a position) v)
  /-- It holds of the check that an item repeats its key. -/
  keyField : ∀ (field : Option String) (key item : Value), R item (.here (.keyField field key) item)
  /-- It holds of the check of an entry that may be the cross-field entry. -/
  crossField : ∀ {form : SchemaForm} {fields : List (Value × Assertion)}
    {field : Value × Assertion} {v : Value}, P (.schema form fields) → field ∈ fields →
    Assertion.isCrossField field.1 ≠ .ok false → R v (.here (.crossField field.1 field.2) v)
  /-- It survives a step. -/
  under : ∀ {step : Step} {v w : Value} {visit : Visit}, step.Leads v w → R w visit →
    R v (visit.under step)
  /-- It survives an object around it. -/
  within : ∀ {inner : Assertion} {own : Option Provider} {rules : ObjectRules} {v : Value}
    {visit : Visit}, P (.object inner own rules) → R v visit → R v (visit.within own)

namespace Assertion

section Induction

variable {P : Assertion → Prop} {R : Value → Visit → Prop}

theorem elementVisits_induction (hR : Inherited P R) {visits : Value → List Visit} {v : Value}
    {items : List Value} (hv : v.array? = some items)
    (hvisits : ∀ w, ∀ visit ∈ visits w, R w visit) :
    ∀ (rest : List Value) (index : Nat),
      (∀ k w, rest[k]? = some w → items[index + k]? = some w) →
        ∀ visit ∈ elementVisits visits index rest, R v visit := by
  intro rest
  induction rest with
  | nil =>
      intro index _ visit hmem
      simp only [elementVisits, List.not_mem_nil] at hmem
  | cons item rest ih =>
      intro index hrest visit hmem
      simp only [elementVisits, List.mem_append, List.mem_map] at hmem
      rcases hmem with ⟨inner, hinner, rfl⟩ | hmem
      · have hitem : items[index]? = some item := hrest 0 item rfl
        exact hR.under ⟨items, hv, hitem⟩ (hvisits item inner hinner)
      · refine ih (index + 1) (fun k w hk => ?_) visit hmem
        have hnext := hrest (k + 1) w hk
        rwa [show index + (k + 1) = index + 1 + k by omega] at hnext

theorem entryVisits_induction (hR : Inherited P R) {visitsOfKey visitsOfItem : Value → List Visit}
    {v : Value} {entries : List (Value × Value)} (hv : v.mapping? = some entries)
    (hkey : ∀ w, ∀ visit ∈ visitsOfKey w, R w visit)
    (hitem : ∀ w, ∀ visit ∈ visitsOfItem w, R w visit) (keyField : Option String) :
    ∀ rest : List (Value × Value), (∀ entry ∈ rest, entry ∈ entries) →
      ∀ visit ∈ entryVisits visitsOfKey visitsOfItem keyField rest, R v visit := by
  intro rest
  induction rest with
  | nil =>
      intro _ visit hmem
      simp only [entryVisits, List.not_mem_nil] at hmem
  | cons entry rest ih =>
      intro hrest visit hmem
      rcases entry with ⟨key, item⟩
      have hentry : (key, item) ∈ entries := hrest (key, item) List.mem_cons_self
      simp only [entryVisits, List.mem_append, List.mem_map, List.mem_cons] at hmem
      rcases hmem with ⟨inner, hinner, rfl⟩ | ⟨inner, hinner, rfl⟩ | rfl | hmem
      · exact hR.under ⟨entries, item, hv, hentry, rfl⟩ (hkey key inner hinner)
      · exact hR.under ⟨entries, hv, hentry⟩ (hitem item inner hinner)
      · exact hR.under ⟨entries, hv, hentry⟩ (hR.keyField keyField key item)
      · exact ih (fun later hlater => hrest later (List.mem_cons_of_mem _ hlater)) visit hmem

mutual

/-- What every visit of a run has in common: what holds of the checks at its nodes, and
    survives a step and an object around it. -/
theorem visits_induction (hR : Inherited P R) : ∀ (a : Assertion), Everywhere P a →
    ∀ (position : Position) (v : Value), ∀ visit ∈ visits a position v, R v visit
  | primitive p, h, position, v, visit, hmem => by
      simp only [visits, List.mem_singleton] at hmem
      exact hmem ▸ hR.node h
  | test predicate message, h, position, v, visit, hmem => by
      simp only [visits, List.mem_singleton] at hmem
      exact hmem ▸ hR.node h
  | boundedText bounds, h, position, v, visit, hmem => by
      simp only [visits, List.mem_singleton] at hmem
      exact hmem ▸ hR.node h
  | schema form fields, h, position, v, visit, hmem => by
      simp only [visits, List.mem_cons] at hmem
      rcases hmem with rfl | hmem
      · exact hR.node h.1
      · rcases hv : v.mapping? with _ | entries
        · simp only [hv, List.not_mem_nil] at hmem
        · simp only [hv, List.mem_append] at hmem
          have hkeys : ∀ field ∈ fields, isCrossField field.1 ≠ .ok false →
              R v (.here (.crossField field.1 field.2) v) :=
            fun field hfield => hR.crossField h.1 hfield
          rcases hmem with hmem | hmem
          · exact fieldVisits_induction hR fields h.2 hv hkeys visit hmem
          · exact crossFieldVisits_induction hR fields h.2 hkeys visit hmem
  | object inner own rules, h, position, v, visit, hmem => by
      cases inner with
      | schema form fields =>
          simp only [visits, List.mem_cons, List.mem_map] at hmem
          rcases hmem with rfl | ⟨inner, hmem, rfl⟩
          · exact hR.node h.1
          · refine hR.within h.1 ?_
            rcases hv : v.mapping? with _ | entries
            · simp only [hv, List.not_mem_nil] at hmem
            · simp only [hv, List.mem_append] at hmem
              have hkeys : ∀ field ∈ fields, isCrossField field.1 ≠ .ok false →
                  R v (.here (.crossField field.1 field.2) v) :=
                fun field hfield => hR.crossField h.2.1 hfield
              rcases hmem with hmem | hmem
              · exact fieldVisits_induction hR fields h.2.2 hv hkeys inner hmem
              · exact crossFieldVisits_induction hR fields h.2.2 hkeys inner hmem
      | _ =>
          simp only [visits, List.mem_singleton] at hmem
          exact hmem ▸ hR.node h.1
  | array element rules, h, position, v, visit, hmem => by
      simp only [visits, List.mem_cons] at hmem
      rcases hmem with rfl | hmem
      · exact hR.node h.1
      · rcases hv : v.array? with _ | items
        · simp only [hv, List.not_mem_nil] at hmem
        · simp only [hv] at hmem
          refine elementVisits_induction hR hv (visits_induction hR element h.2 .part) items 0
            (fun k w hk => ?_) visit hmem
          rwa [Nat.zero_add]
  | record item key keyField crossField, h, position, v, visit, hmem => by
      simp only [visits, List.mem_cons] at hmem
      rcases hmem with rfl | hmem
      · exact hR.node h.1
      · rcases hv : v.mapping? with _ | entries
        · simp only [hv, List.not_mem_nil] at hmem
        · simp only [hv, List.mem_append] at hmem
          rcases hmem with hmem | hmem
          · exact entryVisits_induction hR hv (visitsIfAny_induction hR key h.2.2.1 .part)
              (visits_induction hR item h.2.1 .part) keyField entries (fun _ hentry => hentry)
              visit hmem
          · exact visitsIfAny_induction hR crossField h.2.2.2 .direct v visit hmem
  | valueOr expected fallback, h, position, v, visit, hmem => by
      simp only [visits] at hmem
      by_cases hv : v.strictEq expected = true
      · simp only [hv, if_true, List.not_mem_nil] at hmem
      · simp only [hv, Bool.false_eq_true, if_false] at hmem
        exact visits_induction hR fallback h.2 .fallback v visit hmem
  | callable f, h, position, v, visit, hmem => by
      simp only [visits, List.mem_singleton] at hmem
      exact hmem ▸ hR.node h
  | value w, h, position, v, visit, hmem => by
      simp only [visits, List.mem_singleton] at hmem
      exact hmem ▸ hR.node h

theorem fieldVisits_induction (hR : Inherited P R) : ∀ (fields : List (Value × Assertion)),
    EverywhereInFields P fields → ∀ {v : Value} {entries : List (Value × Value)},
      v.mapping? = some entries →
      (∀ field ∈ fields, isCrossField field.1 ≠ .ok false →
        R v (.here (.crossField field.1 field.2) v)) →
        ∀ visit ∈ fieldVisits fields v entries, R v visit
  | [], _, v, entries, _, _, visit, hmem => by
      simp only [fieldVisits, List.not_mem_nil] at hmem
  | (key, a) :: fields, h, v, entries, hv, hkeys, visit, hmem => by
      simp only [fieldVisits, List.mem_append] at hmem
      rcases hmem with hmem | hmem
      · by_cases hkey : isCrossField key = .ok false
        · simp only [hkey, List.mem_map] at hmem
          rcases hmem with ⟨inner, hinner, rfl⟩
          exact hR.under ⟨entries, hv, rfl⟩ (visits_induction hR a h.1 .part _ inner hinner)
        · have hsingle : visit = .here (.crossField key a) v := by
            rcases hfound : isCrossField key with f | found
            · simpa only [hfound, List.mem_singleton] using hmem
            · cases found with
              | true => simpa only [hfound, List.mem_singleton] using hmem
              | false => exact absurd hfound hkey
          exact hsingle ▸ hkeys (key, a) List.mem_cons_self hkey
      · exact fieldVisits_induction hR fields h.2 hv
          (fun field hfield => hkeys field (List.mem_cons_of_mem _ hfield)) visit hmem

theorem crossFieldVisits_induction (hR : Inherited P R) : ∀ (fields : List (Value × Assertion)),
    EverywhereInFields P fields → ∀ {v : Value},
      (∀ field ∈ fields, isCrossField field.1 ≠ .ok false →
        R v (.here (.crossField field.1 field.2) v)) →
        ∀ visit ∈ crossFieldVisits fields v, R v visit
  | [], _, v, _, visit, hmem => by
      simp only [crossFieldVisits, List.not_mem_nil] at hmem
  | (key, a) :: fields, h, v, hkeys, visit, hmem => by
      simp only [crossFieldVisits] at hmem
      rcases hfound : isCrossField key with f | found
      · simp only [hfound, List.mem_singleton] at hmem
        exact hmem ▸ hkeys (key, a) List.mem_cons_self (by simp only [hfound, ne_eq, reduceCtorEq,
          not_false_eq_true])
      · simp only [hfound] at hmem
        split at hmem
        · exact visits_induction hR a h.1 .direct v visit hmem
        · exact crossFieldVisits_induction hR fields h.2
            (fun field hfield => hkeys field (List.mem_cons_of_mem _ hfield)) visit hmem

theorem visitsIfAny_induction (hR : Inherited P R) : ∀ (a : Option Assertion),
    EverywhereIfAny P a → ∀ (position : Position) (v : Value),
      ∀ visit ∈ visitsIfAny a position v, R v visit
  | none, _, position, v, visit, hmem => by
      simp only [visitsIfAny, List.not_mem_nil] at hmem
  | some a, h, position, v, visit, hmem => visits_induction hR a h position v visit hmem

end

end Induction

end Assertion

/-- A check stems from nodes with a property. -/
def Inspection.Stems (P : Assertion → Prop) : Inspection → Prop
  | node a _ => P a
  | keyField .. => True
  | crossField key a => Assertion.isCrossField key ≠ .ok false ∧
      ∃ form fields, P (.schema form fields) ∧ (key, a) ∈ fields

namespace Assertion

variable {P : Assertion → Prop} {a : Assertion}

theorem visits_stem (h : a.Everywhere P) (position : Position) (v : Value) :
    ∀ visit ∈ a.visits position v, visit.inspection.Stems P := by
  refine visits_induction (R := fun _ visit => visit.inspection.Stems P) ?_ a h position v
  exact
    { node := fun ha => ha
      keyField := fun _ _ _ => trivial
      crossField := fun hschema hfield hkey => ⟨hkey, _, _, hschema, hfield⟩
      under := fun _ hvisit => hvisit
      within := fun _ hvisit => hvisit }

/-- The own places of visits are those of the objects of the tree. -/
theorem visits_own (h : a.Everywhere P) (position : Position) (v : Value) :
    ∀ visit ∈ a.visits position v, ∀ provider, visit.place.own = some provider →
      ∃ inner rules, P (object inner (some provider) rules) := by
  refine visits_induction (R := fun _ visit => ∀ provider, visit.place.own = some provider →
    ∃ inner rules, P (object inner (some provider) rules)) ?_ a h position v
  refine
    { node := fun _ _ hown => ?_
      keyField := fun _ _ _ _ hown => ?_
      crossField := fun _ _ _ _ hown => ?_
      under := fun {_ _ _ visit} _ hvisit provider hown => hvisit provider ?_
      within := fun {_ own _ _ visit} hobject hvisit provider hown => ?_ }
  · exact absurd hown (by simp only [Visit.here, Place.start, reduceCtorEq, not_false_eq_true])
  · exact absurd hown (by simp only [Visit.here, Place.start, reduceCtorEq, not_false_eq_true])
  · exact absurd hown (by simp only [Visit.here, Place.start, reduceCtorEq, not_false_eq_true])
  · rcases visit with ⟨_, _, own | own, path⟩
    · simp only [Visit.under, Place.under, reduceCtorEq] at hown
    · exact hown
  · rcases visit with ⟨_, _, inner | inner, path⟩
    · simp only [Visit.within, Place.within] at hown
      exact ⟨_, _, hown ▸ hobject⟩
    · exact hvisit provider hown

/-- The path of a visit leads to its value, if it starts where the run starts. -/
theorem visits_lead (h : a.Everywhere P) (position : Position) (v : Value) :
    ∀ visit ∈ a.visits position v, visit.place.own = none →
      Leads v visit.place.path visit.value := by
  refine visits_induction (R := fun v visit => visit.place.own = none →
    Leads v visit.place.path visit.value) ?_ a h position v
  refine
    { node := fun _ _ => Leads.here _
      keyField := fun _ _ _ _ => Leads.here _
      crossField := fun _ _ _ _ => Leads.here _
      under := fun {_ _ _ visit} hstep hvisit hown => ?_
      within := fun {_ _ _ _ visit} _ hvisit hown => ?_ }
  · rcases visit with ⟨_, _, own | own, path⟩
    · exact Leads.further hstep (hvisit rfl)
    · simp only [Visit.under, Place.under, reduceCtorEq] at hown
  · rcases visit with ⟨_, _, inner | inner, path⟩
    · exact hvisit rfl
    · simp only [Visit.within, Place.within, reduceCtorEq] at hown

end Assertion

/-- Either every visit passes, and the calls are those of all visits, or there is a first one
    that does not, and the run ends with it: with the calls up to there, and what it raises. -/
theorem runVisits_cases (visits : List Visit) (c : Context) (factory : ErrorFactory) :
    ((∀ visit ∈ visits, (visit.run c factory).result = .ok ()) ∧
      runVisits visits c factory =
        ⟨visits.flatMap fun visit => (visit.run c factory).trace, .ok ()⟩) ∨
    ∃ before visit after raised, visits = before ++ visit :: after ∧
      (∀ earlier ∈ before, (earlier.run c factory).result = .ok ()) ∧
      (visit.run c factory).result = .error raised ∧
      runVisits visits c factory =
        ⟨(before.flatMap fun earlier => (earlier.run c factory).trace) ++
          (visit.run c factory).trace, .error raised⟩ := by
  induction visits with
  | nil =>
      exact Or.inl ⟨fun visit hmem => absurd hmem List.not_mem_nil, rfl⟩
  | cons visit visits ih =>
      rcases hvisit : visit.run c factory with ⟨trace, raised | ⟨⟩⟩
      · -- The first visit raises, so it is the one.
        refine Or.inr ⟨[], visit, visits, raised, rfl, fun _ hmem => absurd hmem List.not_mem_nil,
          by rw [hvisit], ?_⟩
        rw [runVisits, Check.bind_apply_error hvisit, hvisit]
        rfl
      · have hrun : runVisits (visit :: visits) c factory =
            ⟨trace ++ (runVisits visits c factory).trace, (runVisits visits c factory).result⟩ := by
          rw [runVisits, Check.bind_apply_ok hvisit]
        have hpass : (visit.run c factory).result = .ok () := by rw [hvisit]
        rcases ih with ⟨hall, hrest⟩ | ⟨before, failing, after, raised, rfl, hbefore, hfail, hrest⟩
        · refine Or.inl ⟨?_, ?_⟩
          · intro later hmem
            rcases List.mem_cons.mp hmem with rfl | hmem
            · exact hpass
            · exact hall later hmem
          · rw [hrun, hrest, List.flatMap_cons, hvisit]
        · refine Or.inr ⟨visit :: before, failing, after, raised, rfl, ?_, hfail, ?_⟩
          · intro earlier hmem
            rcases List.mem_cons.mp hmem with rfl | hmem
            · exact hpass
            · exact hbefore earlier hmem
          · rw [hrun, hrest, List.flatMap_cons, hvisit, List.append_assoc]

end Attest
