import Attest.Proofs.Misuse
import Attest.Proofs.StrictFilter
import Mathlib.Data.List.Forall2

/-!
# Inline Schemas

A schema may stand in a tree as it is, or wrapped as an object without rules and without a place
of its own.

The two are run by different code. A schema is looked at by whatever it is a part of; an object
is called as a function, and looks at its schema itself. To spell a tree out is to wrap every
schema in it that stands at a field, an element, an item or behind an accepted value. That does not
change what the tree asks: the visits of the two trees correspond one by one, and corresponding
visits are the same check of the same value at the same place.

There is one exception. A schema as a part refuses a list or a tuple with a hint at how arrays are
checked, while an object says just what it found. So where a run comes to such a value, both trees
fail there, after the same calls, with two messages that differ behind the place. Behind an
accepted value there is no hint, and no exception.

The cross-field entry of a schema is not a part. It has to be a function, so a schema in its place
is a mistake that wrapping would hide, and it is left as it is.

## Main definitions

* `asObject`: A schema wrapped as an object.
* `spelledOut`: A tree with every inline schema wrapped.
* `Visit.IsUnfit`: An inline schema meets a list or a tuple.
* `Visit.Alike`: Corresponding visits of the two trees.

## Theorems

* `visits_asObject`: What a wrapped schema visits below itself is what the schema visits.
* `visits_alike`: The visits of a tree and of the tree spelled out correspond.
* `Alike.apply`, `runVisits_alike`: Corresponding visits leave the same behind, or the exception.
* `run_spelledOut`: A tree and the tree spelled out are interchangeable.
-/

namespace Attest

namespace Context

variable {α : Type} {c : Context} {message : String}

/-- A failure behind a place leaves behind what writing the place does. -/
theorem failBehind_apply (h : message ≠ "") (c : Context) (factory : ErrorFactory) :
    (c.failBehind (.ok message) : Check α) factory =
      ⟨(c.text factory).trace, .error (c.refusal (.ok message) factory)⟩ := by
  unfold failBehind Check.failText Check.fail refusal
  rcases htext : c.text factory with ⟨trace, raised | place⟩
  · simp only [bind_assoc, Check.bind_apply_error htext]
  · have hne : place ++ message ≠ "" := fun hempty => h (String.append_eq_empty_iff.mp hempty).2
    have htruthy : (Value.text (place ++ message)).isTruthy = true := decide_eq_true hne
    simp only [bind_assoc, Check.ofExcept_ok, pure_bind, Check.bind_apply_ok htext, htruthy,
      if_true, Check.violation, List.append_nil]

/-- At a place whose text is not empty a failure stands behind it, after a space. -/
theorem failAt_apply_behind (h : message ≠ "") {factory : ErrorFactory}
    (hplace : ∀ place, (c.text factory).result = .ok place → place ≠ "") :
    (c.failAt (.ok message) : Check α) factory =
      ⟨(c.text factory).trace, .error (c.refusal (.ok (" " ++ message)) factory)⟩ := by
  rw [failAt_apply _ _ _ fun hempty => h (Except.ok.inj hempty)]
  unfold refusal
  rcases htext : (c.text factory).result with raised | place
  · rfl
  · simp only [joined, if_neg (hplace place htext), String.append_assoc]

end Context

/-- What a step is written as is never empty. -/
theorem Step.text_ne_empty (step : Step) : step.text ≠ .ok "" := by
  cases step with
  | field key => exact bind_ne_empty fun s => ok_append_ne_empty (by decide) s
  | element index =>
      rw [text, String.append_assoc]
      exact ok_append_ne_empty (by decide) _
  | item key | keyOf key =>
      refine bind_ne_empty fun s => ?_
      simp only [String.append_assoc]
      exact ok_append_ne_empty (by decide) _

/-- A place below the start has a text. -/
theorem Place.text_ne_empty {place : Place} {front : List Step} {step : Step}
    (h : place.path = front ++ [step]) (c : Context) {factory : ErrorFactory} {s : String}
    (hs : ((place.contextFrom c).text factory).result = .ok s) : s ≠ "" := by
  unfold Place.contextFrom at hs
  rw [h, List.foldl_append, List.foldl_cons, List.foldl_nil, Context.text_extend,
    Context.followedBy, Check.bind_ok_iff] at hs
  rcases hs with ⟨start, _, hstart⟩
  rcases Check.bind_ok_iff.mp hstart with ⟨last, hlast, hs⟩
  rw [← Except.ok.inj hs]
  intro hempty
  rw [Check.ofExcept_ok_iff, (String.append_eq_empty_iff.mp hempty).2] at hlast
  exact step.text_ne_empty hlast

namespace Assertion

/-- A schema wrapped as an object, without rules and without a place of its own. Anything else
    stays as it is. -/
def asObject : Assertion → Assertion
  | schema form fields => object (schema form fields) none .lenient
  | a => a

mutual

/-- A tree with every schema wrapped that stands at a field, an element, an item or behind an
    accepted value. -/
def spelledOut : Assertion → Assertion
  | schema form fields => schema form (spelledOutFields fields)
  | object inner own rules => object (spelledOut inner) own rules
  | array element rules => array (spelledOut element).asObject rules
  | record item key keyField crossField =>
    record (spelledOut item).asObject (spelledOutIfAny key) keyField (spelledOutIfAny crossField)
  | valueOr expected fallback => valueOr expected (spelledOut fallback).asObject
  | a => a

/-- The entries of a schema, spelled out. What stands under the key of the cross-field entry is
    not wrapped. -/
def spelledOutFields : List (Value × Assertion) → List (Value × Assertion)
  | [] => []
  | (key, a) :: fields =>
    (key, match isCrossField key with
      | .ok false => (spelledOut a).asObject
      | _ => spelledOut a) :: spelledOutFields fields

/-- A tree that may be absent, spelled out. -/
def spelledOutIfAny : Option Assertion → Option Assertion
  | none => none
  | some a => some (spelledOut a)

end

section Shape

theorem spelledOutFields_keys (fields : List (Value × Assertion)) :
    (spelledOutFields fields).map (·.1) = fields.map (·.1) := by
  induction fields with
  | nil => rfl
  | cons field fields ih =>
      rcases field with ⟨key, a⟩
      simp only [spelledOutFields, List.map_cons, ih]

theorem isCallable_spelledOut (a : Assertion) : a.spelledOut.isCallable = a.isCallable := by
  cases a <;> simp only [spelledOut, isCallable]

theorem kindLabel_spelledOut (a : Assertion) : a.spelledOut.kindLabel = a.kindLabel := by
  cases a <;> simp only [spelledOut, kindLabel]

theorem declares_spelledOut (form : SchemaForm) (fields : List (Value × Assertion)) :
    (schema form (spelledOutFields fields)).declares = (schema form fields).declares := by
  funext name
  have hany : ∀ schema : List (Value × Assertion),
      (schema.any fun field => field.1.isSameKey name) =
        (schema.map (·.1)).any (·.isSameKey name) := fun schema => by
    rw [List.any_map]
    rfl
  simp only [declares, hany, spelledOutFields_keys]

theorem inspectCrossField_spelledOut (key : Value) (a : Assertion) (c : Context) :
    inspectCrossField key a.spelledOut c = inspectCrossField key a c := by
  simp only [inspectCrossField, isCallable_spelledOut, crossFieldComplaint, kindLabel_spelledOut]

/-- The entry among the others that is called last is found by the keys alone. -/
theorem isLast_spelledOut (fields : List (Value × Assertion)) :
    ((spelledOutFields fields).all fun field => (isCrossField field.1).toOption ≠ some true) =
      fields.all fun field => (isCrossField field.1).toOption ≠ some true := by
  have hall : ∀ schema : List (Value × Assertion),
      (schema.all fun field => (isCrossField field.1).toOption ≠ some true) =
        (schema.map (·.1)).all fun key => (isCrossField key).toOption ≠ some true := fun schema => by
    rw [List.all_map]
    rfl
  rw [hall, hall, spelledOutFields_keys]

end Shape

end Assertion

namespace Visit

/-- An inline schema meets a list or a tuple: at a field, an element or an item. -/
structure IsUnfit (visit : Visit) : Prop where
  /-- A schema is to be checked as a part. -/
  inspection : ∃ form fields, visit.inspection = .node (.schema form fields) .part
  /-- The value is a list or a tuple. -/
  value : visit.value.isArray = true
  /-- The last step leads to the value, and not to a key. -/
  place : ∃ front step, visit.place.path = front ++ [step] ∧ ∀ key, step ≠ .keyOf key

/-- Corresponding visits: the same check at the same place, or the exception. -/
inductive Alike (visit other : Visit) : Prop
  | same (h : ∀ c, visit.run c = other.run c)
  | unfit (h : visit.IsUnfit)
      (hrun : ∀ c, other.run c = (visit.place.contextFrom c).failAt (.ok "is an array."))

/-- An inline schema that meets a list or a tuple hints at how arrays are checked. -/
theorem IsUnfit.run_eq {visit : Visit} (h : visit.IsUnfit) (c : Context) :
    visit.run c = (visit.place.contextFrom c).failBehind
      (.ok " use array_assertion() to create a value assertion for an array") := by
  rcases h.inspection with ⟨form, fields, hinspection⟩
  unfold Visit.run
  rw [hinspection]
  simp only [Inspection.run, Assertion.inspect, h.value, if_true, Context.failBehind_bind]

theorem Alike.under {visit other : Visit} (h : visit.Alike other) (step : Step) :
    (visit.under step).Alike (other.under step) := by
  have hrun : ∀ (visit : Visit) c, (visit.under step).run c = visit.run (step.extend c) := by
    intro visit c
    unfold Visit.run Visit.under
    rw [Place.contextFrom_under]
  cases h with
  | same h => exact .same fun c => by rw [hrun, hrun, h]
  | unfit h hother =>
      refine .unfit ⟨h.inspection, h.value, ?_⟩ fun c => ?_
      · rcases visit with ⟨inspection, w, _ | own, path⟩
        · rcases h.place with ⟨front, last, hpath, hlast⟩
          exact ⟨step :: front, last, congrArg (step :: ·) hpath, hlast⟩
        · exact h.place
      · rw [hrun, hother, ← Place.contextFrom_under]
        rfl

theorem Alike.within {visit other : Visit} (h : visit.Alike other) (own : Option Provider) :
    (visit.within own).Alike (other.within own) := by
  have hrun : ∀ (visit : Visit) c,
      (visit.within own).run c = visit.run (Assertion.placeOf own c) := by
    intro visit c
    unfold Visit.run Visit.within
    rw [Place.contextFrom_within]
  cases h with
  | same h => exact .same fun c => by rw [hrun, hrun, h]
  | unfit h hother =>
      refine .unfit ⟨h.inspection, h.value, ?_⟩ fun c => ?_
      · rcases visit with ⟨inspection, w, _ | inner, path⟩
        · exact h.place
        · exact h.place
      · rw [hrun, hother, ← Place.contextFrom_within]
        rfl

/-- Corresponding visits leave the same behind. In the exception they leave the same trace, and two
    messages behind one place. -/
theorem Alike.apply {visit other : Visit} (h : visit.Alike other) (c : Context)
    (factory : ErrorFactory) :
    visit.run c factory = other.run c factory ∨ visit.IsUnfit ∧ ∃ trace,
      visit.run c factory = ⟨trace, .error ((visit.place.contextFrom c).refusal
        (.ok " use array_assertion() to create a value assertion for an array") factory)⟩ ∧
      other.run c factory = ⟨trace, .error ((visit.place.contextFrom c).refusal
        (.ok " is an array.") factory)⟩ := by
  cases h with
  | same h => exact Or.inl (by rw [h])
  | unfit h hother =>
      rcases h.place with ⟨front, step, hpath, _⟩
      refine Or.inr ⟨h, ((visit.place.contextFrom c).text factory).trace, ?_, ?_⟩
      · rw [h.run_eq, Context.failBehind_apply (by decide)]
      · have hplace : ∀ s, ((visit.place.contextFrom c).text factory).result = .ok s → s ≠ "" :=
          fun s hs => Place.text_ne_empty hpath c hs
        rw [hother, Context.failAt_apply_behind (by decide) hplace]
        rfl

end Visit

/-- Corresponding runs leave the same behind, unless they come to the exception after visits that
    pass. -/
theorem runVisits_alike {visits others : List Visit} (h : List.Forall₂ Visit.Alike visits others)
    (c : Context) (factory : ErrorFactory) :
    runVisits visits c factory = runVisits others c factory ∨
      ∃ before visit left trace, visits = before ++ visit :: left ∧
        (∀ earlier ∈ before, (earlier.run c factory).result = .ok ()) ∧ visit.IsUnfit ∧
        runVisits visits c factory = ⟨trace, .error ((visit.place.contextFrom c).refusal
          (.ok " use array_assertion() to create a value assertion for an array") factory)⟩ ∧
        runVisits others c factory = ⟨trace, .error ((visit.place.contextFrom c).refusal
          (.ok " is an array.") factory)⟩ := by
  induction h with
  | nil => exact Or.inl rfl
  | @cons visit other visits others hvisit _ ih =>
      rcases hvisit.apply c factory with hsame | ⟨hunfit, trace, hrun, hother⟩
      · rcases hrun : visit.run c factory with ⟨trace, raised | ⟨⟩⟩
        · refine Or.inl ?_
          rw [runVisits, runVisits, Check.bind_apply_error hrun,
            Check.bind_apply_error (hsame ▸ hrun)]
        · rw [runVisits, runVisits, Check.bind_apply_ok hrun, Check.bind_apply_ok (hsame ▸ hrun)]
          rcases ih with hrest | ⟨before, unfit, left, rest, rfl, hbefore, hunfit, hleft, hright⟩
          · exact Or.inl (by rw [hrest])
          · refine Or.inr ⟨visit :: before, unfit, left, trace ++ rest, rfl,
              List.forall_mem_cons.mpr ⟨by rw [hrun], hbefore⟩, hunfit, ?_, ?_⟩
            · rw [hleft]
            · rw [hright]
      · refine Or.inr ⟨[], visit, visits, trace, rfl, fun _ hmem => absurd hmem List.not_mem_nil,
          hunfit, ?_, ?_⟩
        · rw [runVisits, Check.bind_apply_error hrun]
        · rw [runVisits, Check.bind_apply_error hother]

namespace Assertion

/-- What a schema visits below itself. -/
def partVisits (fields : List (Value × Assertion)) (v : Value) : List Visit :=
  match v.mapping? with
  | none => []
  | some entries => fieldVisits fields v entries ++ crossFieldVisits fields v

theorem visits_schema (form : SchemaForm) (fields : List (Value × Assertion)) (position : Position)
    (v : Value) : (schema form fields).visits position v =
      .here (.node (schema form fields) position) v :: partVisits fields v := by
  rw [visits]
  rfl

theorem visits_object_schema (form : SchemaForm) (fields : List (Value × Assertion))
    (own : Option Provider) (rules : ObjectRules) (position : Position) (v : Value) :
    (object (schema form fields) own rules).visits position v =
      .here (.node (object (schema form fields) own rules) position) v ::
        (partVisits fields v).map (.within own) := by
  rw [visits]
  rfl

/-- An object refuses a list or a tuple as what it is. -/
theorem objectEntries_of_isArray {v : Value} (h : v.isArray = true) (c : Context) :
    objectEntries v c = c.failAt (.ok "is an array.") :=
  if_pos h

/-- The own check of a wrapped schema asks for an object. -/
theorem inspect_asObject (form : SchemaForm) (fields : List (Value × Assertion))
    (position : Position) (v : Value) (c : Context) :
    (object (schema form fields) none .lenient).inspect position v c =
      (objectEntries v c >>= fun _ => pure ()) := by
  simp only [inspect, placeOf, runNames, ObjectRules.lenient, Bool.false_eq_true, if_false]

section Alike

variable {a : Assertion} {visits' others : List Visit}

theorem map_under_alike (h : List.Forall₂ Visit.Alike visits' others) (step : Step) :
    List.Forall₂ Visit.Alike (visits'.map (.under step)) (others.map (.under step)) := by
  rw [List.forall₂_map_left_iff, List.forall₂_map_right_iff]
  exact h.imp fun _ _ hvisit => hvisit.under step

theorem map_within_alike (h : List.Forall₂ Visit.Alike visits' others) (own : Option Provider) :
    List.Forall₂ Visit.Alike (visits'.map (.within own)) (others.map (.within own)) := by
  rw [List.forall₂_map_left_iff, List.forall₂_map_right_iff]
  exact h.imp fun _ _ hvisit => hvisit.within own

/-- A part may be wrapped if it is a schema. Here the exception comes in. -/
theorem part_alike {w : Value}
    (h : List.Forall₂ Visit.Alike (a.visits .part w) (a.spelledOut.visits .part w)) {step : Step}
    (hstep : ∀ key, step ≠ .keyOf key) :
    List.Forall₂ Visit.Alike ((a.visits .part w).map (.under step))
      ((a.spelledOut.asObject.visits .part w).map (.under step)) := by
  cases a with
  | schema form fields =>
      simp only [spelledOut, visits_schema] at h
      simp only [spelledOut, asObject, visits_schema, visits_object_schema, map_within_none,
        List.map_cons]
      rcases List.forall₂_cons.mp h with ⟨_, hparts⟩
      refine .cons ?_ (map_under_alike hparts step)
      have hobject : ∀ others c, (Visit.under step (.here (.node
          (object (schema form others) none .lenient) .part) w)).run c =
            (objectEntries w (step.extend c) >>= fun _ => pure ()) :=
        fun others c => inspect_asObject form others .part w (step.extend c)
      by_cases hw : w.isArray = true
      · refine .unfit ⟨⟨form, fields, rfl⟩, hw, [], step, rfl, hstep⟩ fun c => ?_
        rw [hobject, objectEntries_of_isArray hw, Context.failAt_bind]
        rfl
      · refine .same fun c => ?_
        have hschema : (Visit.under step (.here (.node (schema form fields) .part) w)).run c =
            (schema form fields).inspect .part w (step.extend c) := rfl
        rw [hobject, hschema]
        simp only [inspect, hw, Bool.false_eq_true, if_false]
  | _ => simpa only [spelledOut, asObject] using map_under_alike h step

/-- What stands behind an accepted value may be wrapped if it is a schema. -/
theorem fallback_alike {w : Value}
    (h : List.Forall₂ Visit.Alike (a.visits .fallback w) (a.spelledOut.visits .fallback w)) :
    List.Forall₂ Visit.Alike (a.visits .fallback w) (a.spelledOut.asObject.visits .fallback w) := by
  cases a with
  | schema form fields =>
      simp only [spelledOut, visits_schema] at h
      simp only [spelledOut, asObject, visits_schema, visits_object_schema, map_within_none]
      refine .cons (.same fun c => ?_) (List.forall₂_cons.mp h).2
      exact (inspect_asObject form (spelledOutFields fields) .fallback w c).symm
  | _ => simpa only [spelledOut, asObject] using h

theorem elementVisits_alike {visits others : Value → List Visit}
    (h : ∀ w index, List.Forall₂ Visit.Alike ((visits w).map (.under (.element index)))
      ((others w).map (.under (.element index)))) (index : Nat) (items : List Value) :
    List.Forall₂ Visit.Alike (elementVisits visits index items)
      (elementVisits others index items) := by
  induction items generalizing index with
  | nil => exact .nil
  | cons item items ih => exact List.rel_append (h item index) (ih (index + 1))

theorem entryVisits_alike {visitsOfKey othersOfKey visitsOfItem othersOfItem : Value → List Visit}
    (hkey : ∀ w, List.Forall₂ Visit.Alike (visitsOfKey w) (othersOfKey w))
    (hitem : ∀ w key, List.Forall₂ Visit.Alike ((visitsOfItem w).map (.under (.item key)))
      ((othersOfItem w).map (.under (.item key)))) (keyField : Option String)
    (entries : List (Value × Value)) :
    List.Forall₂ Visit.Alike (entryVisits visitsOfKey visitsOfItem keyField entries)
      (entryVisits othersOfKey othersOfItem keyField entries) := by
  induction entries with
  | nil => exact .nil
  | cons entry entries ih =>
      rcases entry with ⟨key, item⟩
      exact List.rel_append (map_under_alike (hkey key) (.keyOf key))
        (List.rel_append (hitem item key) (.cons (.same fun _ => rfl) ih))

theorem partVisits_alike {fields others : List (Value × Assertion)} {v : Value}
    (hfields : ∀ entries, List.Forall₂ Visit.Alike (fieldVisits fields v entries)
      (fieldVisits others v entries))
    (hcross : List.Forall₂ Visit.Alike (crossFieldVisits fields v) (crossFieldVisits others v)) :
    List.Forall₂ Visit.Alike (partVisits fields v) (partVisits others v) := by
  unfold partVisits
  rcases v.mapping? with _ | entries
  · exact .nil
  · exact List.rel_append (hfields entries) hcross

end Alike

mutual

/-- The visits of a tree and of the tree spelled out correspond, one by one. -/
theorem visits_alike : ∀ (a : Assertion) (position : Position) (v : Value),
    List.Forall₂ Visit.Alike (a.visits position v) (a.spelledOut.visits position v)
  | schema form fields, position, v => by
      simp only [spelledOut, visits_schema]
      exact .cons (.same fun _ => rfl)
        (partVisits_alike (fieldVisits_alike fields v) (crossFieldVisits_alike fields v))
  | object inner own rules, position, v => by
      cases inner with
      | schema form fields =>
          simp only [spelledOut, visits_object_schema]
          refine .cons (.same fun c => ?_) (map_within_alike
            (partVisits_alike (fieldVisits_alike fields v) (crossFieldVisits_alike fields v)) own)
          simp only [Visit.run, Visit.here, Inspection.run, inspect, declares_spelledOut]
      | _ =>
          simp only [spelledOut, visits]
          exact .cons (.same fun _ => rfl) .nil
  | array element rules, position, v => by
      simp only [spelledOut, visits]
      refine .cons (.same fun _ => rfl) ?_
      rcases v.array? with _ | items
      · exact .nil
      · exact elementVisits_alike (fun w index => part_alike (visits_alike element .part w)
          fun _ => by simp only [ne_eq, reduceCtorEq, not_false_eq_true]) 0 items
  | record item key keyField crossField, position, v => by
      simp only [spelledOut, visits]
      refine .cons (.same fun _ => rfl) ?_
      rcases v.mapping? with _ | entries
      · exact .nil
      · exact List.rel_append (entryVisits_alike (visitsIfAny_alike key .part)
          (fun w name => part_alike (visits_alike item .part w)
            fun _ => by simp only [ne_eq, reduceCtorEq, not_false_eq_true]) keyField entries)
          (visitsIfAny_alike crossField .direct v)
  | valueOr expected fallback, position, v => by
      simp only [spelledOut, visits]
      by_cases h : v.strictEq expected = true
      · simp only [h, if_true, List.Forall₂.nil]
      · simp only [h, Bool.false_eq_true, if_false]
        exact fallback_alike (visits_alike fallback .fallback v)
  | primitive p, position, v => by
      simp only [spelledOut, visits]
      exact .cons (.same fun _ => rfl) .nil
  | test predicate message, position, v => by
      simp only [spelledOut, visits]
      exact .cons (.same fun _ => rfl) .nil
  | boundedText bounds, position, v => by
      simp only [spelledOut, visits]
      exact .cons (.same fun _ => rfl) .nil
  | callable f, position, v => by
      simp only [spelledOut, visits]
      exact .cons (.same fun _ => rfl) .nil
  | value w, position, v => by
      simp only [spelledOut, visits]
      exact .cons (.same fun _ => rfl) .nil

theorem fieldVisits_alike : ∀ (fields : List (Value × Assertion)) (v : Value)
    (entries : List (Value × Value)), List.Forall₂ Visit.Alike (fieldVisits fields v entries)
      (fieldVisits (spelledOutFields fields) v entries)
  | [], _, _ => .nil
  | (key, a) :: fields, v, entries => by
      simp only [spelledOutFields, fieldVisits]
      refine List.rel_append ?_ (fieldVisits_alike fields v entries)
      rcases isCrossField key with f | _ | _
      · exact .cons (.same fun c => (inspectCrossField_spelledOut key a c).symm) .nil
      · exact part_alike (visits_alike a .part _)
          fun _ => by simp only [ne_eq, reduceCtorEq, not_false_eq_true]
      · exact .cons (.same fun c => (inspectCrossField_spelledOut key a c).symm) .nil

theorem crossFieldVisits_alike : ∀ (fields : List (Value × Assertion)) (v : Value),
    List.Forall₂ Visit.Alike (crossFieldVisits fields v)
      (crossFieldVisits (spelledOutFields fields) v)
  | [], _ => .nil
  | (key, a) :: fields, v => by
      simp only [spelledOutFields, crossFieldVisits, isLast_spelledOut]
      rcases isCrossField key with f | _ | _
      · exact .cons (.same fun c => (inspectCrossField_spelledOut key a c).symm) .nil
      · simpa only [Bool.false_and, Bool.false_eq_true, if_false] using
          crossFieldVisits_alike fields v
      · simp only [Bool.true_and]
        split
        · exact visits_alike a .direct v
        · exact crossFieldVisits_alike fields v

theorem visitsIfAny_alike : ∀ (a : Option Assertion) (position : Position) (v : Value),
    List.Forall₂ Visit.Alike (visitsIfAny a position v)
      (visitsIfAny (spelledOutIfAny a) position v)
  | none, _, _ => .nil
  | some a, position, v => visits_alike a position v

end

/-- A tree and the tree spelled out are interchangeable. On every value, in every position and at
    every place they leave the same trace and the same result, with a single exception: after
    visits that pass, an inline schema at a field, an element or an item may meet a list or a
    tuple. Then both fail, after the same calls and behind the same place, each with its own
    message. So both pass or both fail, always. Behind an accepted value a list or a tuple is no
    exception. -/
theorem run_spelledOut (a : Assertion) (position : Position) (v : Value) (c : Context)
    (factory : ErrorFactory) :
    (a.run position v c factory = a.spelledOut.run position v c factory ∨
      ∃ visit left trace, a.ComesTo factory position v c visit left ∧ visit.IsUnfit ∧
        a.run position v c factory = ⟨trace, .error ((visit.place.contextFrom c).refusal
          (.ok " use array_assertion() to create a value assertion for an array") factory)⟩ ∧
        a.spelledOut.run position v c factory = ⟨trace, .error
          ((visit.place.contextFrom c).refusal (.ok " is an array.") factory)⟩) ∧
    ((a.run position v c factory).result = .ok () ↔
      (a.spelledOut.run position v c factory).result = .ok ()) ∧
    ∀ (expected : Value) (form : SchemaForm) (fields : List (Value × Assertion)),
      a = valueOr expected (schema form fields) → v.isArray = true →
        a.run position v c factory = a.spelledOut.run position v c factory := by
  have halike := runVisits_alike (visits_alike a position v) c factory
  rw [← run_eq_runVisits, ← run_eq_runVisits] at halike
  refine ⟨?_, ?_, ?_⟩
  · rcases halike with hsame | ⟨before, visit, left, trace, hvisits, hbefore, hunfit, hrun, hother⟩
    · exact Or.inl hsame
    · exact Or.inr ⟨visit, left, trace, ⟨before, hvisits, hbefore⟩, hunfit, hrun, hother⟩
  · rcases halike with hsame | ⟨_, _, _, _, _, _, _, hrun, hother⟩
    · rw [hsame]
    · rw [hrun, hother]
      simp only [reduceCtorEq]
  · rintro expected form fields rfl hv
    simp only [spelledOut, asObject, run]
    by_cases h : v.strictEq expected = true
    · simp only [h, if_true]
    · simp only [h, Bool.false_eq_true, if_false, placeOf, objectEntries_of_isArray hv,
        Context.failAt_bind]

/-- Somebody has a home in a town, and may have another one. -/
def homeForm : Assertion :=
  schema .dict [(.text "home", schema .dict [(.text "town", primitive .string)]),
    (.text "other", valueOr .undefined (schema .dict [(.text "town", primitive .string)]))]

theorem run_spelledOut_homes :
    (Value.list (.given 0) []).isArray = true ∧
      (valueOr .undefined homeForm).run .part (.list (.given 0) []) (.root none) .standard =
        (valueOr .undefined homeForm).spelledOut.run .part (.list (.given 0) []) (.root none)
          .standard ∧
      ((homeForm.run .fallback (.dict (.given 0) [(.text "home", .list (.given 1) [])])
          (.root none) .standard).result = .ok () ↔
        (homeForm.spelledOut.run .fallback (.dict (.given 0) [(.text "home", .list (.given 1) [])])
          (.root none) .standard).result = .ok ()) := by
  have harray : (Value.list (.given 0) []).isArray = true := rfl
  refine ⟨harray, ?_, ?_⟩
  · exact (run_spelledOut (valueOr .undefined homeForm) .part (.list (.given 0) []) (.root none)
      .standard).2.2 .undefined _ _ rfl harray
  · exact (run_spelledOut homeForm .fallback _ (.root none) .standard).2.1

/-- A list in the place of the home is the exception. -/
example :
    (homeForm.run .fallback (.dict (.given 0) [(.text "home", .list (.given 1) [])])
      (.root none) .standard).result = .error (.built .schemaError
        [.text ".home use array_assertion() to create a value assertion for an array"]) ∧
    (homeForm.spelledOut.run .fallback (.dict (.given 0) [(.text "home", .list (.given 1) [])])
      (.root none) .standard).result =
        .error (.built .schemaError [.text ".home is an array."]) :=
  ⟨rfl, rfl⟩

end Assertion

end Attest
