import Mathlib.Data.List.Nodup
import Attest.Proofs.Visits

/-!
# Calls

Which functions there are to call on the way through a value, and in which order.

The functions that the surrounding program puts into a tree may do anything, so when they are
called is part of what a tree promises: a cross-field check may rely on the fields having been
checked, and nothing is to be called twice. `Assertion.calls` says what is to be called. It goes
through the value as the tree does, in order and down to the leaves, and looks neither at
places nor at outcomes: the fields of a schema, the elements of an array, of each entry of a
record the key and then the item, and behind all of them the function that closes the node. Of
the tree it asks that its leaves are functions, and that what closes a node is one.

`calls_eq_filterMap_visits` finds the calls among the visits of a run, which are more: a
container has checks of its own. So what is known of visits is known of calls, above all where
their values stand.

## Main definitions

* `Call`: A function with its value and the path to it.
* `Call.make`: Make a call, in a run that starts from a context.
* `Call.ofParts`: The calls of parts, in order.
* `Assertion.closing?`: The function that closes a node.
* `Assertion.calls`: The calls of a traversal.
* `Assertion.IsOrderly`: A node of a tree of containers and functions.
* `Visit.call?`: The call that a visit makes.
* `Value.HasDistinctKeys`: No mapping in a value has a key twice.

## Theorems

* `crossFieldVisits_eq`: What closes an object is visited behind its fields.
* `calls_eq_filterMap_visits`: The calls of a traversal are those among the visits of a run.
* `calls_lead`: The path of a call leads to its value.
* `nodup_ofParts`: Calls below different steps have different paths.
* `calls_nodup`: No two calls have the same path.
-/

namespace Attest

/-- A call of a function that the surrounding program supplies. -/
structure Call where
  /-- The function. -/
  function : Callable
  /-- Where in the tree it stands. -/
  position : Position
  /-- The value that it is called with. -/
  value : Value
  /-- The steps to the value, from where the run starts. -/
  path : List Step

namespace Call

/-- The call below a step. -/
def under (step : Step) (call : Call) : Call :=
  { call with path := step :: call.path }

/-- The context that a function is called with, in a run that starts from a context. -/
def context (call : Call) (c : Context) : Context :=
  call.path.foldl Step.extend c

/-- Make a call. An assertion must not return a value; of a function that is called directly,
    what it returns is not looked at. -/
def make (call : Call) (c : Context) : Check Unit := do
  let answer ← call.function.call call.value (some (call.context c))
  match call.position with
  | .direct => pure ()
  | _ => Callable.refuseResult answer

/-- The calls of parts, in order. Each part is given by the step to it and its own calls. -/
def ofParts (parts : List (Step × List Call)) : List Call :=
  parts.flatMap fun part => part.2.map (.under part.1)

theorem ofParts_append (parts rest : List (Step × List Call)) :
    ofParts (parts ++ rest) = ofParts parts ++ ofParts rest :=
  List.flatMap_append

end Call

namespace Assertion

/-- The function that an assertion is, if it is one. -/
def function? : Assertion → Option Callable
  | callable f => some f
  | _ => none

/-- The function under the key of the cross-field entry. Of several it is the last one. -/
def closingField? : List (Value × Assertion) → Option Callable
  | [] => none
  | (key, a) :: fields =>
    (closingField? fields).or
      (if (isCrossField key).toOption = some true then a.function? else none)

/-- The function that closes a node: it is called when all that is below has passed. -/
def closing? : Assertion → Option Callable
  | schema _ fields | object (schema _ fields) _ _ => closingField? fields
  | record _ _ _ crossField => crossField.bind function?
  | _ => none

/-- The call that closes a node, if there is one. -/
def closingCall (a : Assertion) (v : Value) : List Call :=
  a.closing?.toList.map fun f => ⟨f, .direct, v, []⟩

mutual

/-- The calls of a traversal of a value by a tree, in order. -/
def calls : Assertion → Position → Value → List Call
  | schema form fields, _, v =>
    match v.mapping? with
    | none => []
    | some entries =>
      -- Wherever its entry stands among the others, what closes an object comes last.
      Call.ofParts (fieldParts fields entries) ++ closingCall (schema form fields) v
  | object inner _ _, _, v => calls inner .fallback v
  | array element _, _, v =>
    match v.array? with
    | none => []
    | some items =>
      Call.ofParts (items.zipIdx.map fun item => (.element item.2, calls element .part item.1))
  | record item key keyField crossField, _, v =>
    match v.mapping? with
    | none => []
    | some entries =>
      Call.ofParts (entries.flatMap fun entry =>
        [(.keyOf entry.1, callsIfAny key .part entry.1),
          (.item entry.1, calls item .part entry.2)]) ++
        closingCall (record item key keyField crossField) v
  | valueOr expected fallback, _, v =>
    if v.strictEq expected then [] else calls fallback .fallback v
  | callable f, position, v => [⟨f, position, v, []⟩]
  | _, _, _ => []

/-- The calls of a tree that may be absent. -/
def callsIfAny : Option Assertion → Position → Value → List Call
  | none, _, _ => []
  | some a, position, v => calls a position v

/-- The fields of an object that a schema names, in the order of the schema, with their calls. -/
def fieldParts : List (Value × Assertion) → List (Value × Value) → List (Step × List Call)
  | [], _ => []
  | (key, a) :: fields, entries =>
    if (isCrossField key).toOption = some true then fieldParts fields entries
    else (.field key, calls a .part (Entries.get entries key)) :: fieldParts fields entries

end

/-- What stands under the key of the cross-field entry is a function, and no other key is taken
    for this one. -/
def FieldsOrderly (fields : List (Value × Assertion)) : Prop :=
  ∀ field ∈ fields, isCrossField field.1 = .ok false ∨
    isCrossField field.1 = .ok true ∧ ∃ f, field.2 = callable f

/-- A node of a tree of schemas, arrays, records and alternatives over functions that take the
    context. What is called with a whole object or record is a function. -/
def IsOrderly : Assertion → Prop
  | schema _ fields => (fields.map (·.1)).Nodup ∧ FieldsOrderly fields
  | object inner own _ => (∃ form fields, inner = schema form fields) ∧ own = none
  | array .. | valueOr .. => True
  | record _ _ _ crossField => ∀ a, crossField = some a → ∃ f, a = callable f
  | callable f => f.signature.takes 2 = true
  | _ => False

end Assertion

/-- The call that a visit makes, if it is one. -/
def Visit.call? (visit : Visit) : Option Call :=
  match visit.inspection with
  | .node (.callable f) position => some ⟨f, position, visit.value, visit.place.path⟩
  | _ => none

namespace Visit

theorem call?_under {visit : Visit} (h : visit.place.own = none) (step : Step) :
    (visit.under step).call? = visit.call?.map (.under step) := by
  rcases visit with ⟨inspection, w, own, path⟩
  simp only at h
  subst h
  cases inspection with
  | node a position => cases a <;> rfl
  | _ => rfl

theorem call?_within (visit : Visit) (own : Option Provider) :
    (visit.within own).call? = visit.call? := by
  rcases visit with ⟨inspection, w, _ | _, path⟩
  · cases inspection with
    | node a position => cases a <;> rfl
    | _ => rfl
  · rfl

theorem filterMap_call?_under {visits : List Visit} (h : ∀ visit ∈ visits, visit.place.own = none)
    (step : Step) :
    (visits.map (.under step)).filterMap call? = (visits.filterMap call?).map (.under step) := by
  rw [List.filterMap_map, List.map_filterMap]
  exact List.filterMap_congr fun visit hmem => call?_under (h visit hmem) step

theorem filterMap_call?_within (visits : List Visit) (own : Option Provider) :
    (visits.map (.within own)).filterMap call? = visits.filterMap call? := by
  rw [List.filterMap_map]
  exact List.filterMap_congr fun visit _ => call?_within visit own

end Visit

namespace Assertion

section Traversal

variable {visits : Value → List Visit} {calls : Value → List Call}

theorem filterMap_elementVisits (hown : ∀ w, ∀ visit ∈ visits w, visit.place.own = none)
    (h : ∀ w, (visits w).filterMap Visit.call? = calls w) (items : List Value) (index : Nat) :
    (elementVisits visits index items).filterMap Visit.call? =
      Call.ofParts ((items.zipIdx index).map fun item => (.element item.2, calls item.1)) := by
  induction items generalizing index with
  | nil => rfl
  | cons item items ih =>
      rw [elementVisits, List.filterMap_append, Visit.filterMap_call?_under (hown item), h, ih]
      rfl

theorem filterMap_entryVisits {visitsOfKey : Value → List Visit} {callsOfKey : Value → List Call}
    (hownKey : ∀ w, ∀ visit ∈ visitsOfKey w, visit.place.own = none)
    (hkey : ∀ w, (visitsOfKey w).filterMap Visit.call? = callsOfKey w)
    (hown : ∀ w, ∀ visit ∈ visits w, visit.place.own = none)
    (h : ∀ w, (visits w).filterMap Visit.call? = calls w) (keyField : Option String)
    (entries : List (Value × Value)) :
    (entryVisits visitsOfKey visits keyField entries).filterMap Visit.call? =
      Call.ofParts (entries.flatMap fun entry =>
        [(.keyOf entry.1, callsOfKey entry.1), (.item entry.1, calls entry.2)]) := by
  induction entries with
  | nil => rfl
  | cons entry entries ih =>
      rcases entry with ⟨key, item⟩
      have hkeyField : Visit.call? (.under (.item key) (.here (.keyField keyField key) item)) = none :=
        rfl
      rw [entryVisits, List.filterMap_append, List.filterMap_append,
        Visit.filterMap_call?_under (hownKey key), Visit.filterMap_call?_under (hown item), hkey, h,
        List.filterMap_cons_none hkeyField, ih, List.flatMap_cons, Call.ofParts_append]
      simp only [Call.ofParts, List.flatMap_cons, List.flatMap_nil, List.append_nil,
        List.append_assoc]

end Traversal

theorem closingField?_isNone {fields : List (Value × Assertion)} (h : FieldsOrderly fields) :
    (closingField? fields).isNone =
      fields.all fun field => (isCrossField field.1).toOption ≠ some true := by
  induction fields with
  | nil => rfl
  | cons field fields ih =>
      rcases field with ⟨key, a⟩
      rcases List.forall_mem_cons.mp h with ⟨hfield, hfields⟩
      rw [List.all_cons, ← ih hfields, closingField?]
      rcases closingField? fields with _ | f
      · rcases hfield with hkey | ⟨hkey, f, ha⟩
        · simp only at hkey
          simp [hkey, Except.toOption]
        · simp only at hkey ha
          simp [hkey, ha, Except.toOption, function?]
      · simp only [Option.some_or, Option.isNone_some, Bool.and_false]

/-- What closes an object is visited behind its fields. -/
theorem crossFieldVisits_eq {fields : List (Value × Assertion)} (h : FieldsOrderly fields)
    (v : Value) :
    crossFieldVisits fields v =
      (closingField? fields).toList.map fun f => .here (.node (callable f) .direct) v := by
  induction fields with
  | nil => rfl
  | cons field fields ih =>
      rcases field with ⟨key, a⟩
      rcases List.forall_mem_cons.mp h with ⟨hfield, hfields⟩
      rw [crossFieldVisits, ← closingField?_isNone hfields, ih hfields, closingField?]
      rcases hfield with hkey | ⟨hkey, f, ha⟩
      · simp only at hkey
        simp [hkey, Except.toOption]
      · -- A later entry of this kind is called in place of this one.
        simp only at hkey ha
        rcases closingField? fields with _ | g
        · simp [hkey, ha, Except.toOption, function?, visits]
        · simp [hkey]

theorem IsOrderly.visits_own {a : Assertion} (ha : a.Everywhere IsOrderly) (position : Position)
    (v : Value) : ∀ visit ∈ a.visits position v, visit.place.own = none := by
  intro visit hmem
  rcases hown : visit.place.own with _ | provider
  · rfl
  · -- Its place would be the own one of an object, which an orderly tree does not have.
    rcases Assertion.visits_own ha position v visit hmem provider hown with ⟨inner, rules, hobject⟩
    exact absurd hobject.2 (by simp only [reduceCtorEq, not_false_eq_true])

theorem IsOrderly.visitsIfAny_own : ∀ {a : Option Assertion}, EverywhereIfAny IsOrderly a →
    ∀ (position : Position) (v : Value), ∀ visit ∈ visitsIfAny a position v, visit.place.own = none
  | none, _, _, _, visit, hmem => absurd hmem (by simp only [visitsIfAny, List.not_mem_nil,
      not_false_eq_true])
  | some _, ha, position, v, visit, hmem => by
      rw [visitsIfAny] at hmem
      exact IsOrderly.visits_own ha position v visit hmem

theorem filterMap_closing (f : Option Callable) (v : Value) :
    (f.toList.map fun f => Visit.here (.node (callable f) .direct) v).filterMap Visit.call? =
      f.toList.map fun f => ⟨f, .direct, v, []⟩ := by
  cases f <;> rfl

/-- The calls that close an object or record are the visits behind its parts. -/
theorem filterMap_crossFieldVisits {fields : List (Value × Assertion)} (h : FieldsOrderly fields)
    (v : Value) :
    (crossFieldVisits fields v).filterMap Visit.call? =
      (closingField? fields).toList.map fun f => ⟨f, .direct, v, []⟩ := by
  rw [crossFieldVisits_eq h, filterMap_closing]

mutual

/-- The calls of a traversal are those among the visits of a run. -/
theorem calls_eq_filterMap_visits : ∀ (a : Assertion), a.Everywhere IsOrderly →
    ∀ (position : Position) (v : Value),
      (a.visits position v).filterMap Visit.call? = a.calls position v
  | primitive p, ha, position, v => absurd ha id
  | test predicate message, ha, position, v => absurd ha id
  | boundedText bounds, ha, position, v => absurd ha id
  | schema form fields, ha, position, v => by
      have hhere : Visit.call? (.here (.node (schema form fields) position) v) = none := rfl
      rw [visits, calls, List.filterMap_cons_none hhere]
      rcases v.mapping? with _ | entries
      · rfl
      · rw [List.filterMap_append, filterMap_crossFieldVisits ha.1.2,
          fieldParts_eq_filterMap_visits fields ha.2 ha.1.2]
        rfl
  | object inner own rules, ha, position, v => by
      rcases ha with ⟨⟨⟨form, fields, rfl⟩, _⟩, hinner⟩
      have hhere : Visit.call? (.here (.node (object (schema form fields) own rules) position) v) =
        none := rfl
      -- The object makes the visits of its schema, but for the own check of the schema.
      rw [visits, calls, calls, List.filterMap_cons_none hhere, Visit.filterMap_call?_within]
      rcases v.mapping? with _ | entries
      · rfl
      · rw [List.filterMap_append, filterMap_crossFieldVisits hinner.1.2,
          fieldParts_eq_filterMap_visits fields hinner.2 hinner.1.2]
        rfl
  | array element rules, ha, position, v => by
      have hhere : Visit.call? (.here (.node (array element rules) position) v) = none := rfl
      rw [visits, calls, List.filterMap_cons_none hhere]
      rcases v.array? with _ | items
      · rfl
      · exact filterMap_elementVisits (IsOrderly.visits_own ha.2 .part)
          (calls_eq_filterMap_visits element ha.2 .part) items 0
  | record item key keyField crossField, ha, position, v => by
      have hhere : Visit.call? (.here (.node (record item key keyField crossField) position) v) =
        none := rfl
      rw [visits, calls, List.filterMap_cons_none hhere]
      rcases v.mapping? with _ | entries
      · rfl
      · have hclosing : (visitsIfAny crossField .direct v).filterMap Visit.call? =
            closingCall (record item key keyField crossField) v := by
          rcases crossField with _ | b
          · simp only [visitsIfAny]
            rfl
          · rcases ha.1 b rfl with ⟨f, rfl⟩
            simp only [visitsIfAny, visits]
            rfl
        rw [List.filterMap_append, hclosing,
          filterMap_entryVisits (IsOrderly.visitsIfAny_own ha.2.2.1 .part)
            (callsIfAny_eq_filterMap_visits key ha.2.2.1 .part) (IsOrderly.visits_own ha.2.1 .part)
            (calls_eq_filterMap_visits item ha.2.1 .part)]
  | valueOr expected fallback, ha, position, v => by
      rw [visits, calls]
      by_cases h : v.strictEq expected = true
      · simp only [h, if_true]
        rfl
      · simp only [h, Bool.false_eq_true, if_false]
        exact calls_eq_filterMap_visits fallback ha.2 .fallback v
  | callable f, ha, position, v => by
      simp only [visits, calls]
      rfl
  | value w, ha, position, v => absurd ha id

theorem callsIfAny_eq_filterMap_visits : ∀ (a : Option Assertion), EverywhereIfAny IsOrderly a →
    ∀ (position : Position) (v : Value),
      (visitsIfAny a position v).filterMap Visit.call? = callsIfAny a position v
  | none, _, _, _ => by
      rw [visitsIfAny, callsIfAny]
      rfl
  | some a, ha, position, v => by
      rw [visitsIfAny, callsIfAny]
      exact calls_eq_filterMap_visits a ha position v

theorem fieldParts_eq_filterMap_visits : ∀ (fields : List (Value × Assertion)),
    EverywhereInFields IsOrderly fields → FieldsOrderly fields →
    ∀ (v : Value) (entries : List (Value × Value)),
      (fieldVisits fields v entries).filterMap Visit.call? =
        Call.ofParts (fieldParts fields entries)
  | [], _, _, _, _ => by
      rw [fieldVisits, fieldParts]
      rfl
  | (key, a) :: fields, ha, hfields, v, entries => by
      rcases List.forall_mem_cons.mp hfields with ⟨hfield, hrest⟩
      rw [fieldVisits, fieldParts, List.filterMap_append,
        fieldParts_eq_filterMap_visits fields ha.2 hrest v entries]
      rcases hfield with hkey | ⟨hkey, _⟩
      · simp only at hkey
        simp only [hkey, Except.toOption, Option.some.injEq, Bool.false_eq_true, if_false]
        rw [Visit.filterMap_call?_under (IsOrderly.visits_own ha.1 .part _),
          calls_eq_filterMap_visits a ha.1 .part]
        rfl
      · -- The entry is looked at on the way, but what it holds is called behind the fields.
        simp only at hkey
        simp only [hkey, Except.toOption, if_true]
        rfl

end

/-- The path of a call leads to its value. -/
theorem calls_lead {a : Assertion} (ha : a.Everywhere IsOrderly) (position : Position) (v : Value) :
    ∀ call ∈ a.calls position v, Leads v call.path call.value := by
  intro call hmem
  rw [← calls_eq_filterMap_visits a ha] at hmem
  rcases List.mem_filterMap.mp hmem with ⟨visit, hvisit, hcall⟩
  have hlead := visits_lead ha position v visit hvisit
    (IsOrderly.visits_own ha position v visit hvisit)
  unfold Visit.call? at hcall
  split at hcall
  · rw [← Option.some.inj hcall]
    exact hlead
  · exact absurd hcall (by simp only [reduceCtorEq, not_false_eq_true])

end Assertion

namespace Call

/-- A call below parts goes through the step to one of them. -/
theorem path_of_mem_ofParts {parts : List (Step × List Call)} {path : List Step}
    (h : path ∈ (ofParts parts).map Call.path) :
    ∃ part ∈ parts, ∃ rest ∈ part.2.map Call.path, path = part.1 :: rest := by
  rcases List.mem_map.mp h with ⟨call, hcall, rfl⟩
  rcases List.mem_flatMap.mp hcall with ⟨part, hpart, hmem⟩
  rcases List.mem_map.mp hmem with ⟨below, hbelow, rfl⟩
  exact ⟨part, hpart, below.path, List.mem_map_of_mem hbelow, rfl⟩

/-- If the steps to parts differ, and the paths within each part do, all paths do. -/
theorem nodup_ofParts {parts : List (Step × List Call)} (hsteps : (parts.map (·.1)).Nodup)
    (hparts : ∀ part ∈ parts, (part.2.map Call.path).Nodup) :
    ((ofParts parts).map Call.path).Nodup := by
  induction parts with
  | nil => exact List.nodup_nil
  | cons part parts ih =>
      rcases List.forall_mem_cons.mp hparts with ⟨hpart, hrest⟩
      rw [List.map_cons, List.nodup_cons] at hsteps
      have hsplit : (ofParts (part :: parts)).map Call.path =
          (part.2.map Call.path).map (part.1 :: ·) ++ (ofParts parts).map Call.path := by
        simp only [ofParts, List.flatMap_cons, List.map_append, List.map_map]
        rfl
      rw [hsplit]
      refine (hpart.map fun _ _ h => (List.cons.inj h).2).append (ih hsteps.2 hrest) ?_
      -- A path that occurs here and behind would begin with the steps to two parts at once.
      intro path hhere hthere
      rcases List.mem_map.mp hhere with ⟨below, _, rfl⟩
      rcases path_of_mem_ofParts hthere with ⟨other, hother, _, _, hpath⟩
      have hstep : part.1 = other.1 := (List.cons.inj hpath).1
      exact hsteps.1 (hstep ▸ List.mem_map_of_mem hother)

end Call

/-- No two entries of a mapping in a value have the same key. -/
def Value.HasDistinctKeys (v : Value) : Prop :=
  v.Throughout fun entries => (entries.map (·.1)).Nodup

namespace Assertion

/-- What closes a node is called at the node itself, and everything else below. -/
theorem nodup_closed {parts : List (Step × List Call)}
    (h : ((Call.ofParts parts).map Call.path).Nodup) (a : Assertion) (v : Value) :
    ((Call.ofParts parts ++ a.closingCall v).map Call.path).Nodup := by
  rw [List.map_append]
  refine h.append ?_ fun path hbelow hclosing => ?_
  · unfold closingCall
    cases a.closing? with
    | none => exact List.nodup_nil
    | some f => exact List.nodup_singleton _
  · -- Below, a path has at least the step to a part. At the node it has none.
    rcases Call.path_of_mem_ofParts hbelow with ⟨part, _, rest, _, rfl⟩
    rcases List.mem_map.mp hclosing with ⟨call, hcall, hpath⟩
    rcases List.mem_map.mp hcall with ⟨f, _, rfl⟩
    exact absurd hpath (by simp only [reduceCtorEq, not_false_eq_true])

theorem fieldParts_steps (fields : List (Value × Assertion)) (entries : List (Value × Value)) :
    ((fieldParts fields entries).map (·.1)).Sublist ((fields.map (·.1)).map .field) := by
  induction fields with
  | nil =>
      rw [fieldParts]
      exact List.Sublist.refl _
  | cons field fields ih =>
      rcases field with ⟨key, a⟩
      rw [fieldParts]
      split
      · exact ih.cons _
      · exact ih.cons_cons _

theorem nodup_entrySteps {entries : List (Value × Value)} (h : (entries.map (·.1)).Nodup) :
    (entries.flatMap fun entry => [Step.keyOf entry.1, Step.item entry.1]).Nodup := by
  induction entries with
  | nil => exact List.nodup_nil
  | cons entry entries ih =>
      rw [List.map_cons, List.nodup_cons] at h
      have hother : ∀ other ∈ entries, entry.1 ≠ other.1 := fun other hmem hsame =>
        h.1 (hsame ▸ List.mem_map_of_mem hmem)
      simp only [List.flatMap_cons, List.cons_append, List.nil_append, List.nodup_cons,
        List.mem_cons, List.mem_flatMap, List.not_mem_nil, or_false, reduceCtorEq, false_or,
        Step.keyOf.injEq, Step.item.injEq, not_exists, not_and]
      exact ⟨hother, hother, ih h.2⟩

mutual

/-- No two calls of a traversal have the same path. -/
theorem calls_nodup : ∀ (a : Assertion), a.Everywhere IsOrderly → ∀ (position : Position)
    (v : Value), v.HasDistinctKeys → ((a.calls position v).map Call.path).Nodup
  | primitive p, ha, position, v, hv => absurd ha id
  | test predicate message, ha, position, v, hv => absurd ha id
  | boundedText bounds, ha, position, v, hv => absurd ha id
  | schema form fields, ha, position, v, hv => by
      rw [calls]
      rcases hentries : v.mapping? with _ | entries
      · exact List.nodup_nil
      · refine nodup_closed (Call.nodup_ofParts ?_ ?_) _ v
        · exact (List.Nodup.map (fun _ _ h => Step.field.inj h) ha.1.1).sublist
            (fieldParts_steps fields entries)
        · exact fieldParts_nodup fields ha.2 v hv entries hentries
  | object inner own rules, ha, position, v, hv => by
      rw [calls]
      exact calls_nodup inner ha.2 .fallback v hv
  | array element rules, ha, position, v, hv => by
      rw [calls]
      rcases hitems : v.array? with _ | items
      · exact List.nodup_nil
      · refine Call.nodup_ofParts ?_ fun part hmem => ?_
        · -- The steps are the indices, one after another.
          have hsteps : (items.zipIdx.map fun item =>
              (Step.element item.2, calls element .part item.1)).map (·.1) =
                (List.range' 0 items.length).map .element := by
            rw [← List.zipIdx_map_snd, List.map_map, List.map_map]
            rfl
          rw [hsteps]
          exact List.Nodup.map (fun _ _ h => Step.element.inj h) List.nodup_range'
        · rcases List.mem_map.mp hmem with ⟨item, hitem, rfl⟩
          exact calls_nodup element ha.2 .part item.1 ((Value.throughout_iff.mp hv).2
            (.element item.2) item.1 ⟨items, hitems, List.mem_zipIdx_iff_getElem?.mp hitem⟩)
  | record item key keyField crossField, ha, position, v, hv => by
      rw [calls]
      rcases hentries : v.mapping? with _ | entries
      · exact List.nodup_nil
      · refine nodup_closed (Call.nodup_ofParts ?_ fun part hmem => ?_) _ v
        · rw [List.map_flatMap]
          exact nodup_entrySteps ((Value.throughout_iff.mp hv).1 entries hentries)
        · rcases List.mem_flatMap.mp hmem with ⟨entry, hentry, hpart⟩
          rcases List.mem_cons.mp hpart with rfl | hpart
          · exact callsIfAny_nodup key ha.2.2.1 .part entry.1 ((Value.throughout_iff.mp hv).2
              (.keyOf entry.1) entry.1 ⟨entries, entry.2, hentries, hentry, rfl⟩)
          · rw [List.mem_singleton.mp hpart]
            exact calls_nodup item ha.2.1 .part entry.2 ((Value.throughout_iff.mp hv).2
              (.item entry.1) entry.2 ⟨entries, hentries, hentry⟩)
  | valueOr expected fallback, ha, position, v, hv => by
      rw [calls]
      by_cases h : v.strictEq expected = true
      · simp only [h, if_true]
        exact List.nodup_nil
      · simp only [h, Bool.false_eq_true, if_false]
        exact calls_nodup fallback ha.2 .fallback v hv
  | callable f, ha, position, v, hv => by
      simp only [calls]
      exact List.nodup_singleton _
  | value w, ha, position, v, hv => absurd ha id

theorem callsIfAny_nodup : ∀ (a : Option Assertion), EverywhereIfAny IsOrderly a →
    ∀ (position : Position) (v : Value), v.HasDistinctKeys →
      ((callsIfAny a position v).map Call.path).Nodup
  | none, _, _, _, _ => by
      rw [callsIfAny]
      exact List.nodup_nil
  | some a, ha, position, v, hv => by
      rw [callsIfAny]
      exact calls_nodup a ha position v hv

theorem fieldParts_nodup : ∀ (fields : List (Value × Assertion)),
    EverywhereInFields IsOrderly fields → ∀ (v : Value), v.HasDistinctKeys →
      ∀ entries, v.mapping? = some entries →
        ∀ part ∈ fieldParts fields entries, (part.2.map Call.path).Nodup
  | [], _, _, _, _, _, part, hmem => by
      rw [fieldParts] at hmem
      exact absurd hmem List.not_mem_nil
  | (key, a) :: fields, ha, v, hv, entries, hentries, part, hmem => by
      have hrest := fieldParts_nodup fields ha.2 v hv entries hentries
      rw [fieldParts] at hmem
      split at hmem
      · exact hrest part hmem
      · rcases List.mem_cons.mp hmem with rfl | hmem
        · exact calls_nodup a ha.1 .part _ ((Value.throughout_iff.mp hv).2 (.field key) _
            ⟨entries, hentries, rfl⟩)
        · exact hrest part hmem

end

end Assertion

end Attest
