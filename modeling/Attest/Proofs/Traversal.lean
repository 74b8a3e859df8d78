import Attest.Proofs.Place

/-!
# Traversals

The checks that a run consists of, in the order in which it makes them.

A run is a recursion over the tree in which checks, loops and places are woven into
each other. `Assertion.visits` takes it apart. It lists what a run would look at if
nothing failed: of every node first its own check, which asks about the value as a
whole, and then the visits of its parts. The list depends on the tree and the value
alone. A context is not needed to make it, because every visit carries its place as a
path from wherever the run starts.

`run_eq_runVisits` says that a run does nothing else: it is the list of its visits,
made one after the other. What is to be shown of all runs is shown of the own checks,
of which there are few, and carried over along the list.

## Main definitions

* `Assertion.inspect`: The own check of a node.
* `Inspection`: What is checked on a visit.
* `Visit`: A check with its value and its place.
* `Assertion.visits`: The visits of a run.
* `runVisits`: One visit after another.
* `runIfPresent`: Run a check that may be absent.
* `recordComplaint`: What is wrong with a value that is no record.

## Theorems

* `runVisits_append`: Lists of visits follow each other.
* `runVisits_passes_iff`: Visits pass if every one of them does.
* `runVisits_under`: Visits below a step start from the place that the step leads to.
* `runVisits_within`: Visits within an object of its own place start from there.
* `objectEntries_of_mapping`, `recordEntries_of_mapping`: A mapping has its own entries.
* `objectEntries_of_not_mapping`, `recordEntries_of_not_mapping`: Anything else is refused.
* `arrayItems_bind`: The items of an array are those of the value.
* `run_eq_runVisits`: A run makes its visits and nothing else.
-/

namespace Attest

namespace Assertion

/-- The own check of a node: what it asks of a value before its parts are asked. -/
def inspect : Assertion → Position → Value → Context → Check Unit
  | primitive p, _, v, c => p.run v c
  | test predicate message, _, v, c => runTest predicate message v c
  | boundedText bounds, _, v, c => runBoundedText bounds v c
  | schema form _, position, v, c => do
    match position with
    | .part =>
      if v.isArray then
        c.failBehind (.ok " use array_assertion() to create a value assertion for an array")
      else pure ()
    | .fallback => pure ()
    | .called | .direct => Check.raise (.fault (.notCallable form.className))
    let _ ← objectEntries v c
  | object (schema form fields) own rules, _, v, c => do
    let entries ← objectEntries v (placeOf own c)
    runNames (schema form fields).declares rules entries (placeOf own c)
  | object other own rules, _, v, c => do
    let entries ← objectEntries v (placeOf own c)
    runNames other.declares rules entries (placeOf own c)
    Check.raise (.fault other.notSchema)
  | array _ rules, _, v, c => do
    let _ ← arrayItems rules v c
  | record .., _, v, c => do
    let _ ← recordEntries v c
  | valueOr .., _, _, _ => pure ()
  | callable f, position, v, c => f.run position v c
  | value w, position, v, c =>
    match w.asCallable? with
    | some f => f.run position v c
    | none =>
      match position with
      | .part => c.failBehind (.ok (" assertion is not an object or a function: " ++ w.kindLabel))
      | _ => Check.raise (.fault (.notCallable w.className))

/-- The check of a schema's entry whose key may be the one of the cross-field entry: if it
    is, the entry must be a function. -/
def inspectCrossField (key : Value) (a : Assertion) (c : Context) : Check Unit := do
  if ← Check.ofExcept (isCrossField key) then
    if a.isCallable then pure ()
    else c.failBehind (crossFieldComplaint key a)
  else pure ()

end Assertion

/-- What is checked on a visit. -/
inductive Inspection where
  /-- The own check of a node. -/
  | node (a : Assertion) (position : Position)
  /-- Whether a field of an item repeats the key that the item is stored under. -/
  | keyField (field : Option String) (key : Value)
  /-- Whether the cross-field entry of a schema is a function. -/
  | crossField (key : Value) (a : Assertion)

/-- The check, of a value at a place in the data. -/
def Inspection.run : Inspection → Value → Context → Check Unit
  | node a position, v, c => a.inspect position v c
  | keyField field key, item, c => Assertion.runKeyField field key item c
  | crossField key a, _, c => Assertion.inspectCrossField key a c

/-- A check with its value and its place. -/
structure Visit where
  /-- What is checked. -/
  inspection : Inspection
  /-- The value that it is checked on. -/
  value : Value
  /-- Where the value stands. -/
  place : Place

namespace Visit

/-- A visit at the start of a run. -/
def here (inspection : Inspection) (v : Value) : Visit :=
  ⟨inspection, v, .start⟩

/-- The visit below a step. -/
def under (step : Step) (visit : Visit) : Visit :=
  ⟨visit.inspection, visit.value, visit.place.under step⟩

/-- The visit within an object that may have its own place. -/
def within (own : Option Provider) (visit : Visit) : Visit :=
  ⟨visit.inspection, visit.value, visit.place.within own⟩

/-- Make a visit, in a run that starts from a context. -/
def run (visit : Visit) (c : Context) : Check Unit :=
  visit.inspection.run visit.value (visit.place.contextFrom c)

end Visit

/-- The visits of elements, the first of which has the given index. -/
def elementVisits (visits : Value → List Visit) (index : Nat) : List Value → List Visit
  | [] => []
  | item :: items =>
    (visits item).map (.under (.element index)) ++ elementVisits visits (index + 1) items

/-- The visits of the entries of a record: of each one first the key, then the item, and
    then the field that repeats the key. -/
def entryVisits (visitsOfKey visitsOfItem : Value → List Visit) (keyField : Option String) :
    List (Value × Value) → List Visit
  | [] => []
  | (key, item) :: entries =>
    (visitsOfKey key).map (.under (.keyOf key)) ++
      ((visitsOfItem item).map (.under (.item key)) ++
        (.under (.item key) (.here (.keyField keyField key) item) ::
          entryVisits visitsOfKey visitsOfItem keyField entries))

namespace Assertion

mutual

/-- The visits of a run, in order. -/
def visits : Assertion → Position → Value → List Visit
  | schema form fields, position, v =>
    .here (.node (schema form fields) position) v ::
      match v.mapping? with
      | none => []
      | some entries => fieldVisits fields v entries ++ crossFieldVisits fields v
  | object (schema form fields) own rules, position, v =>
    .here (.node (object (schema form fields) own rules) position) v ::
      (match v.mapping? with
      | none => []
      | some entries => fieldVisits fields v entries ++ crossFieldVisits fields v).map
        (.within own)
  | array element rules, position, v =>
    .here (.node (array element rules) position) v ::
      match v.array? with
      | none => []
      | some items => elementVisits (visits element .part) 0 items
  | record item key keyField crossField, position, v =>
    .here (.node (record item key keyField crossField) position) v ::
      match v.mapping? with
      | none => []
      | some entries =>
        entryVisits (visitsIfAny key .part) (visits item .part) keyField entries ++
          visitsIfAny crossField .direct v
  | valueOr expected fallback, _, v =>
    if v.strictEq expected then [] else visits fallback .fallback v
  | a, position, v => [.here (.node a position) v]

/-- The visits of an assertion that may be absent. -/
def visitsIfAny : Option Assertion → Position → Value → List Visit
  | none, _, _ => []
  | some a, position, v => visits a position v

/-- The visits of the fields of a schema on the entries of an object. -/
def fieldVisits : List (Value × Assertion) → Value → List (Value × Value) → List Visit
  | [], _, _ => []
  | (key, a) :: fields, v, entries =>
    (match isCrossField key with
      | .ok false => (visits a .part (Entries.get entries key)).map (.under (.field key))
      | _ => [.here (.crossField key a) v]) ++
    fieldVisits fields v entries

/-- The visits of the cross-field entry of a schema on the whole object. -/
def crossFieldVisits : List (Value × Assertion) → Value → List Visit
  | [], _ => []
  | (key, a) :: fields, v =>
    match isCrossField key with
    | .ok found =>
      if found && fields.all fun field => (isCrossField field.1).toOption ≠ some true then
        visits a .direct v
      else crossFieldVisits fields v
    | .error _ => [.here (.crossField key a) v]

end

end Assertion

/-- One visit after another, in a run that starts from a context. -/
def runVisits : List Visit → Context → Check Unit
  | [], _ => pure ()
  | visit :: visits, c => do
    visit.run c
    runVisits visits c

theorem runVisits_append (visits rest : List Visit) (c : Context) :
    runVisits (visits ++ rest) c = (runVisits visits c >>= fun _ => runVisits rest c) := by
  induction visits with
  | nil => rfl
  | cons visit visits ih => simp only [List.cons_append, runVisits, ih, bind_assoc]

/-- A list with a single visit makes that one. -/
theorem runVisits_singleton (visit : Visit) (c : Context) :
    runVisits [visit] c = visit.run c :=
  bind_pure (visit.run c)

theorem runVisits_passes_iff {visits : List Visit} {c : Context} {factory : ErrorFactory} :
    (runVisits visits c factory).result = .ok () ↔
      ∀ visit ∈ visits, (visit.run c factory).result = .ok () := by
  induction visits with
  | nil => exact ⟨fun _ visit hmem => absurd hmem List.not_mem_nil, fun _ => rfl⟩
  | cons visit visits ih =>
      rw [runVisits, Check.andThen_passes_iff, ih, List.forall_mem_cons]

theorem runVisits_here (inspection : Inspection) (v : Value) (visits : List Visit) (c : Context) :
    runVisits (.here inspection v :: visits) c =
      (inspection.run v c >>= fun _ => runVisits visits c) :=
  rfl

theorem runVisits_under (step : Step) (visits : List Visit) (c : Context) :
    runVisits (visits.map (.under step)) c = runVisits visits (step.extend c) := by
  induction visits with
  | nil => rfl
  | cons visit visits ih =>
      have hrun : (visit.under step).run c = visit.run (step.extend c) := by
        unfold Visit.run Visit.under
        rw [Place.contextFrom_under]
      simp only [List.map_cons, runVisits, hrun, ih]

theorem runVisits_within (own : Option Provider) (visits : List Visit) (c : Context) :
    runVisits (visits.map (.within own)) c = runVisits visits (Assertion.placeOf own c) := by
  induction visits with
  | nil => rfl
  | cons visit visits ih =>
      have hrun : (visit.within own).run c = visit.run (Assertion.placeOf own c) := by
        unfold Visit.run Visit.within
        rw [Place.contextFrom_within]
      simp only [List.map_cons, runVisits, hrun, ih]

namespace Assertion

theorem objectEntries_of_mapping {v : Value} {entries : List (Value × Value)}
    (h : v.mapping? = some entries) (c : Context) : objectEntries v c = pure entries := by
  cases v <;> simp only [Value.mapping?, reduceCtorEq, Option.some.injEq] at h <;> rw [h] <;> rfl

theorem recordEntries_of_mapping {v : Value} {entries : List (Value × Value)}
    (h : v.mapping? = some entries) (c : Context) : recordEntries v c = pure entries := by
  cases v <;> simp only [Value.mapping?, reduceCtorEq, Option.some.injEq] at h <;> rw [h] <;> rfl

/-- Anything but a mapping is refused as an object, with words that depend on it alone. -/
theorem objectEntries_of_not_mapping {v : Value} (h : v.mapping? = none) :
    ∃ message, ∀ c, objectEntries v c = c.failAt (.ok message) := by
  cases v <;> simp only [Value.mapping?, reduceCtorEq] at h <;> exact ⟨_, fun _ => rfl⟩

/-- What is wrong with a value that is no record. -/
def recordComplaint (v : Value) : Except Fault String :=
  if v.isArray then .ok "the value is not a record, but is an array"
  else match v with
    | .null => .ok "value is null"
    | v => withShown "value is not an object: " v

/-- Anything but a mapping is refused as a record, with words that depend on it alone. -/
theorem recordEntries_of_not_mapping {v : Value} (h : v.mapping? = none) (c : Context) :
    recordEntries v c = c.failUnder (recordComplaint v) := by
  cases v <;> simp only [Value.mapping?, reduceCtorEq] at h <;> rfl

/-- What an array is refused for does not change its items: they are those of the value. -/
theorem arrayItems_bind {α : Type} (rules : ArrayRules) {v : Value} {items : List Value}
    (h : v.array? = some items) (c : Context) (f : List Value → Check α) :
    (arrayItems rules v c >>= f) = (arrayItems rules v c >>= fun _ => f items) := by
  unfold arrayItems
  rw [h]
  simp only [bind_assoc]
  congr 1
  funext broken
  rcases broken with _ | broken
  · rcases rules.identity with _ | identity
    · rfl
    · simp only [bind_assoc]
      congr 1
      funext unique
      cases unique with
      | true => simp only [if_true, pure_bind]
      | false => simp only [Bool.false_eq_true, if_false, Context.failUnder_bind]
  · simp only [Context.failUnder_bind]

/-- Anything but a list or tuple is refused as an array. -/
theorem arrayItems_of_not_array (rules : ArrayRules) {v : Value} (h : v.array? = none)
    (c : Context) : arrayItems rules v c = c.failUnder (withShown "value is not an array: " v) := by
  unfold arrayItems
  rw [h]

theorem runElements_eq_runVisits {check : Value → Context → Check Unit}
    {visits : Value → List Visit} (h : ∀ v c, check v c = runVisits (visits v) c)
    (items : List Value) (index : Nat) (c : Context) :
    runElements check c index items = runVisits (elementVisits visits index items) c := by
  induction items generalizing index with
  | nil => rfl
  | cons item items ih =>
      simp only [runElements, elementVisits]
      rw [runVisits_append, runVisits_under, h, ih]
      rfl

/-- Run a check that may be absent. -/
def runIfPresent (check : Option (Value → Context → Check Unit)) (v : Value) (c : Context) :
    Check Unit :=
  match check with
  | some check => check v c
  | none => pure ()

theorem runEntries_cons (checkKey : Option (Value → Context → Check Unit))
    (checkItem : Value → Context → Check Unit) (keyField : Option String) (key item : Value)
    (entries : List (Value × Value)) (c : Context) :
    runEntries checkKey checkItem keyField c ((key, item) :: entries) =
      (runIfPresent checkKey key (.keyOf (.entry c key)) >>= fun _ =>
        checkItem item (.entry c key) >>= fun _ =>
        runKeyField keyField key item (.entry c key) >>= fun _ =>
        runEntries checkKey checkItem keyField c entries) := by
  rcases checkKey with _ | check
  · rfl
  · rfl

theorem runEntries_eq_runVisits {checkKey : Option (Value → Context → Check Unit)}
    {checkItem : Value → Context → Check Unit} {visitsOfKey visitsOfItem : Value → List Visit}
    (hkey : ∀ v c, runIfPresent checkKey v c = runVisits (visitsOfKey v) c)
    (hitem : ∀ v c, checkItem v c = runVisits (visitsOfItem v) c)
    (keyField : Option String) (entries : List (Value × Value)) (c : Context) :
    runEntries checkKey checkItem keyField c entries =
      runVisits (entryVisits visitsOfKey visitsOfItem keyField entries) c := by
  induction entries with
  | nil => rfl
  | cons entry entries ih =>
      rcases entry with ⟨key, item⟩
      rw [runEntries_cons, hkey, hitem, ih, entryVisits, runVisits_append, runVisits_append,
        runVisits_under, runVisits_under]
      rfl

/-- The parts of an object are visited if there is an object, after what else is asked of its
    entries. -/
theorem runParts_eq_runVisits {fields : List (Value × Assertion)} {v : Value} {c : Context}
    (hfields : ∀ entries, runFields fields entries c = runVisits (fieldVisits fields v entries) c)
    (hcross : runCrossField fields v c = runVisits (crossFieldVisits fields v) c)
    (ask : List (Value × Value) → Check Unit) :
    (objectEntries v c >>= fun entries => ask entries >>= fun _ =>
        runFields fields entries c >>= fun _ => runCrossField fields v c) =
      (objectEntries v c >>= fun entries => ask entries >>= fun _ =>
        runVisits (match v.mapping? with
          | none => []
          | some entries => fieldVisits fields v entries ++ crossFieldVisits fields v) c) := by
  rcases hv : v.mapping? with _ | entries
  · rcases objectEntries_of_not_mapping hv with ⟨message, hentries⟩
    simp only [hentries, Context.failAt_bind]
  · simp only [objectEntries_of_mapping hv, pure_bind, runVisits_append, hfields, hcross]

mutual

/-- A run makes its visits, in order, and nothing else. -/
theorem run_eq_runVisits : ∀ (a : Assertion) (position : Position) (v : Value) (c : Context),
    run a position v c = runVisits (visits a position v) c
  | primitive p, position, v, c => by
      simp only [run, visits, runVisits_singleton]
      rfl
  | test predicate message, position, v, c => by
      simp only [run, visits, runVisits_singleton]
      rfl
  | boundedText bounds, position, v, c => by
      simp only [run, visits, runVisits_singleton]
      rfl
  | schema form fields, position, v, c => by
      have hparts := runParts_eq_runVisits
        (fun entries => runFields_eq_runVisits fields v entries c)
        (runCrossField_eq_runVisits fields v c) fun _ => pure ()
      simp only [pure_bind] at hparts
      rw [visits, runVisits_here, Inspection.run]
      cases position with
      | part =>
          simp only [run, inspect, hparts]
          by_cases hv : v.isArray = true
          · simp only [hv, if_true, Context.failBehind_bind]
          · simp only [hv, Bool.false_eq_true, if_false, bind_assoc, pure_bind]
      | fallback => simp only [run, inspect, hparts, bind_assoc, pure_bind]
      | called => rfl
      | direct => rfl
  | object inner own rules, position, v, c => by
      cases inner with
      | schema form fields =>
          simp only [run, visits, runVisits_here, runVisits_within, Inspection.run, inspect,
            bind_assoc]
          exact runParts_eq_runVisits
            (fun entries => runFields_eq_runVisits fields v entries (placeOf own c))
            (runCrossField_eq_runVisits fields v (placeOf own c)) _
      | _ =>
          simp only [run, visits, runVisits_singleton]
          rfl
  | array element rules, position, v, c => by
      simp only [run, visits, runVisits_here, Inspection.run, inspect]
      rcases hv : v.array? with _ | items
      · simp only [arrayItems_of_not_array rules hv, Context.failUnder_bind]
      · rw [arrayItems_bind rules hv, bind_assoc]
        simp only [runElements_eq_runVisits (run_eq_runVisits element .part), pure_bind]
  | record item key keyField crossField, position, v, c => by
      simp only [run, visits, runVisits_here, Inspection.run, inspect]
      rcases hv : v.mapping? with _ | entries
      · simp only [recordEntries_of_not_mapping hv, Context.failUnder_bind]
      · simp only [recordEntries_of_mapping hv, pure_bind]
        rw [runVisits_append, ← runIfAny_eq_runVisits crossField .direct v c,
          runEntries_eq_runVisits (runIfAny_eq_runVisits key .part) (run_eq_runVisits item .part)]
        rfl
  | valueOr expected fallback, position, v, c => by
      simp only [run, visits]
      by_cases h : v.strictEq expected = true
      · simp only [h, if_true]
        rfl
      · simp only [h]
        exact run_eq_runVisits fallback .fallback v c
  | callable f, position, v, c => by
      simp only [run, visits, runVisits_singleton]
      rfl
  | value w, position, v, c => by
      simp only [run, visits, runVisits_singleton]
      rfl

theorem runFields_eq_runVisits : ∀ (fields : List (Value × Assertion)) (v : Value)
    (entries : List (Value × Value)) (c : Context),
    runFields fields entries c = runVisits (fieldVisits fields v entries) c
  | [], _, _, _ => rfl
  | (key, a) :: fields, v, entries, c => by
      simp only [runFields, fieldVisits]
      rw [runVisits_append, ← runFields_eq_runVisits fields v entries c]
      rcases hkey : isCrossField key with f | found
      · simp only [runVisits_singleton, Visit.run, Visit.here, Inspection.run, inspectCrossField,
          hkey, Check.ofExcept_error, Check.raise_bind]
      · cases found with
        | true =>
            simp only [runVisits_singleton, Visit.run, Visit.here, Inspection.run,
              inspectCrossField, hkey, Check.ofExcept_ok, pure_bind, if_true]
            by_cases ha : a.isCallable = true
            · simp only [ha, if_true, pure_bind]
            · simp only [ha, Bool.false_eq_true, if_false]
              rfl
        | false =>
            simp only [runVisits_under, ← run_eq_runVisits a .part (Entries.get entries key),
              Check.ofExcept_ok, pure_bind, Bool.false_eq_true, if_false]
            rfl

/-- The cross-field entry of a schema makes the visits that it has on the whole object. -/
theorem runCrossField_eq_runVisits : ∀ (fields : List (Value × Assertion)) (v : Value)
    (c : Context), runCrossField fields v c = runVisits (crossFieldVisits fields v) c
  | [], _, _ => rfl
  | (key, a) :: fields, v, c => by
      simp only [runCrossField, crossFieldVisits]
      rcases hkey : isCrossField key with f | found
      · simp only [runVisits_singleton, Visit.run, Visit.here, Inspection.run, inspectCrossField,
          hkey, Check.ofExcept_error, Check.raise_bind]
      · simp only [Check.ofExcept_ok, pure_bind]
        split
        · exact run_eq_runVisits a .direct v c
        · exact runCrossField_eq_runVisits fields v c

theorem runIfAny_eq_runVisits : ∀ (a : Option Assertion) (position : Position) (v : Value)
    (c : Context), runIfPresent (runIfAny a position) v c = runVisits (visitsIfAny a position v) c
  | none, _, _, _ => rfl
  | some a, position, v, c => by
      rw [runIfAny, visitsIfAny, ← run_eq_runVisits a position v c]
      rfl

end

end Assertion

end Attest
