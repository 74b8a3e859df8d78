import Attest.Proofs.Calls
import Attest.Proofs.Laziness
import Attest.Proofs.Passing

/-!
# The Order of Calls

How far a run gets in the list of its calls.

A run makes the calls from the front of the list, each on the value at the end of its path and
with the context of this path, and what the trace holds of them is what these calls leave. A run
that passes has made all of them. One that raises has made them up to the one that raised, or up
to a check of a container that did. `run_makes` says so; it is read off the visits of the run,
between which only checks stand that leave nothing in the trace.

Where a node is closed is seen better from the run itself. `run_unclosed` takes the function that
closes a node off the end of its run, and `run_closes` does the same for every node below that
the run comes to: in front of the call stands all else that the node asks for, behind it whatever
follows the node.

## Main definitions

* `Callable.silent`: A function that does nothing.
* `Assertion.openFields`: The fields of a schema without the function that closes it.
* `Assertion.unclosed`: A node without the function that closes it.
* `Assertion.runClosing`: The call of the function that closes a node.
* `Assertion.Reaches`: A run comes to a node below.
* `Assertion.Makes`: How far a run gets in the list of its calls.

## Theorems

* `run_unclosed`: A node is closed last, at its own place.
* `infix_visits_of_reaches`: The visits of a node stand together.
* `run_closes`: Every node is closed before the run goes on behind it.
* `visit_free`: What is no call leaves no event of a kind.
* `run_makes`: A run makes its calls in order, and stops at the first failure.
* `run_makes_calls`: What is called, in which order, and how far.
-/

namespace Attest

/-- A function of a value and its context that does nothing. -/
def Callable.silent : Callable :=
  ⟨.unnamed, ⟨2, some 2⟩, fun _ _ => pure .null⟩

namespace Assertion

/-- The fields of a schema, of which none is called with the whole object any more. The key of
    the cross-field entry stays, as strict rules count it among the declared names. -/
def openFields (fields : List (Value × Assertion)) : List (Value × Assertion) :=
  fields.map fun field => (field.1,
    if (isCrossField field.1).toOption = some true then callable .silent else field.2)

/-- A node without the function that closes it. -/
def unclosed : Assertion → Assertion
  | schema form fields => schema form (openFields fields)
  | object (schema form fields) own rules => object (schema form (openFields fields)) own rules
  | record item key keyField _ => record item key keyField none
  | a => a

section Closing

variable {fields : List (Value × Assertion)}

theorem mem_of_closingField? {f : Callable} (h : closingField? fields = some f) :
    ∃ key, (key, callable f) ∈ fields := by
  induction fields with
  | nil => exact absurd h (by simp only [closingField?, reduceCtorEq, not_false_eq_true])
  | cons field fields ih =>
      rcases field with ⟨key, a⟩
      rw [closingField?, Option.or_eq_some_iff] at h
      rcases h with hlater | ⟨_, hhere⟩
      · rcases ih hlater with ⟨other, hmem⟩
        exact ⟨other, List.mem_cons_of_mem _ hmem⟩
      · split at hhere
        · cases a with
          | callable g => exact ⟨key, Option.some.inj hhere ▸ List.mem_cons_self⟩
          | _ => exact absurd hhere (by simp only [function?, reduceCtorEq, not_false_eq_true])
        · exact absurd hhere (by simp only [reduceCtorEq, not_false_eq_true])

/-- What closes a node takes the context. -/
theorem takes_of_closing? {a : Assertion} (ha : a.Everywhere IsOrderly) {f : Callable}
    (h : a.closing? = some f) : f.signature.takes 2 = true := by
  cases a with
  | schema form fields =>
      rcases mem_of_closingField? h with ⟨key, hmem⟩
      exact everywhere_of_mem ha.2 _ hmem
  | object inner own rules =>
      rcases ha with ⟨⟨⟨form, fields, rfl⟩, _⟩, hinner⟩
      rcases mem_of_closingField? h with ⟨key, hmem⟩
      exact everywhere_of_mem hinner.2 _ hmem
  | record item key keyField crossField =>
      rcases crossField with _ | b
      · exact absurd h (by simp only [closing?, Option.bind_none, reduceCtorEq, not_false_eq_true])
      · rcases ha.1 b rfl with ⟨g, rfl⟩
        rw [← Option.some.inj h]
        exact ha.2.2.2
  | _ => exact absurd h (by simp only [closing?, reduceCtorEq, not_false_eq_true])

/-- Call what closes a node, if there is something. -/
def runClosing (a : Assertion) (v : Value) (c : Context) : Check Unit :=
  match a.closing? with
  | none => pure ()
  | some f => Call.make ⟨f, .direct, v, []⟩ c

theorem declares_openFields (form : SchemaForm) (fields : List (Value × Assertion)) :
    (schema form (openFields fields)).declares = (schema form fields).declares := by
  funext name
  simp only [declares, openFields, List.any_map]
  rfl

theorem openFields_cons_of_field {key : Value} (hkey : isCrossField key = .ok false) (a : Assertion)
    (fields : List (Value × Assertion)) :
    openFields ((key, a) :: fields) = (key, a) :: openFields fields := by
  simp [openFields, hkey, Except.toOption]

theorem openFields_cons_of_crossField {key : Value} (hkey : isCrossField key = .ok true)
    (a : Assertion) (fields : List (Value × Assertion)) :
    openFields ((key, a) :: fields) = (key, callable .silent) :: openFields fields := by
  simp [openFields, hkey, Except.toOption]

theorem runFields_openFields (h : FieldsOrderly fields) (entries : List (Value × Value))
    (c : Context) : runFields (openFields fields) entries c = runFields fields entries c := by
  induction fields with
  | nil => rfl
  | cons field fields ih =>
      rcases field with ⟨key, a⟩
      rcases List.forall_mem_cons.mp h with ⟨hfield, hfields⟩
      rcases hfield with hkey | ⟨hkey, f, ha⟩
      · rw [openFields_cons_of_field hkey, runFields, runFields, ih hfields]
      · -- Both entries are functions, so the run over the fields has nothing to say about them.
        simp only at hkey ha
        rw [openFields_cons_of_crossField hkey, runFields, runFields, ih hfields, hkey, ha]
        rfl

theorem runCrossField_openFields (h : FieldsOrderly fields) (v : Value) (c : Context) :
    runCrossField (openFields fields) v c = pure () := by
  induction fields with
  | nil => rfl
  | cons field fields ih =>
      rcases field with ⟨key, a⟩
      rcases List.forall_mem_cons.mp h with ⟨hfield, hfields⟩
      rcases hfield with hkey | ⟨hkey, _⟩
      · simp only at hkey
        rw [openFields_cons_of_field hkey, runCrossField, hkey]
        exact ih hfields
      · -- If a later entry takes the place of this one, it does nothing either.
        simp only at hkey
        rw [openFields_cons_of_crossField hkey, runCrossField, hkey]
        simp only [Check.ofExcept_ok, pure_bind]
        split
        · rfl
        · exact ih hfields

end Closing

end Assertion

/-- A function that takes the context is called with it. -/
theorem Call.make_eq_run {call : Call} (h : call.function.signature.takes 2 = true) (c : Context) :
    call.make c = call.function.run call.position call.value (call.context c) := by
  rcases call with ⟨f, position, v, path⟩
  simp only at h
  cases position <;> simp only [make, Callable.run, Callable.callAsAssertion,
    Callable.callWithContext, h, if_true]

namespace Assertion

theorem runCrossField_eq_runClosing {form : SchemaForm} {fields : List (Value × Assertion)}
    (ha : (schema form fields).Everywhere IsOrderly) (v : Value) (c : Context) :
    runCrossField fields v c = (schema form fields).runClosing v c := by
  rw [runCrossField_eq_runVisits, crossFieldVisits_eq ha.1.2, runClosing, closing?]
  rcases hclosing : closingField? fields with _ | f
  · rfl
  · have htakes : f.signature.takes 2 = true := takes_of_closing? ha hclosing
    simp only [Option.toList_some, List.map_cons, List.map_nil, runVisits_singleton]
    rw [Call.make_eq_run htakes]
    rfl

/-- A node is closed last: when everything else has passed, with the value and at the place of
    the node. -/
theorem run_unclosed {a : Assertion} (ha : a.Everywhere IsOrderly) (position : Position)
    (v : Value) (c : Context) :
    a.run position v c = (a.unclosed.run position v c >>= fun _ => a.runClosing v c) := by
  cases a with
  | schema form fields =>
      have hclosing := runCrossField_eq_runClosing ha v c
      have hfields := fun entries => runFields_openFields ha.1.2 entries c
      have hcross := runCrossField_openFields ha.1.2 v c
      -- Where a schema is refused as a whole, neither side comes to its fields.
      simp only [unclosed, run, hfields, hcross, hclosing]
      cases position with
      | part =>
          by_cases hv : v.isArray = true
          · simp only [hv, if_true, Context.failBehind_bind]
          · simp only [hv, Bool.false_eq_true, if_false, bind_assoc, pure_bind]
      | fallback => simp only [bind_assoc, pure_bind]
      | called => simp only [Check.raise_bind]
      | direct => simp only [Check.raise_bind]
  | object inner own rules =>
      rcases ha with ⟨⟨⟨form, fields, rfl⟩, rfl⟩, hinner⟩
      have hclosing : runCrossField fields v c =
          (object (schema form fields) none rules).runClosing v c :=
        runCrossField_eq_runClosing hinner v c
      have hfields := fun entries => runFields_openFields hinner.1.2 entries c
      have hcross := runCrossField_openFields hinner.1.2 v c
      simp only [unclosed, run, placeOf, declares_openFields form, hfields, hcross, hclosing,
        bind_assoc, pure_bind]
  | record item key keyField crossField =>
      rcases crossField with _ | b
      · simp only [unclosed, runClosing, closing?, Option.bind_none, bind_pure_unit]
      · rcases ha.1 b rfl with ⟨f, rfl⟩
        have htakes : f.signature.takes 2 = true := ha.2.2.2
        have hclosing : (record item key keyField (some (callable f))).runClosing v c =
            f.run .direct v c := Call.make_eq_run htakes c
        simp only [unclosed, run, runIfAny, hclosing, bind_assoc, pure_bind]
  | _ => simp only [unclosed, runClosing, closing?, bind_pure_unit]

end Assertion

/-- A visit below a path. -/
def Visit.along (path : List Step) (visit : Visit) : Visit :=
  path.foldr Visit.under visit

theorem map_along_cons (step : Step) (path : List Step) (visits : List Visit) :
    visits.map (Visit.along (step :: path)) =
      (visits.map (Visit.along path)).map (Visit.under step) := by
  rw [List.map_map]
  rfl

theorem runVisits_along (path : List Step) (visits : List Visit) (c : Context) :
    runVisits (visits.map (Visit.along path)) c = runVisits visits (path.foldl Step.extend c) := by
  induction path generalizing c with
  | nil =>
      have hnil : Visit.along [] = id := rfl
      rw [hnil, List.map_id]
      rfl
  | cons step path ih => rw [map_along_cons, runVisits_under, ih, List.foldl_cons]

namespace Assertion

/-- A run of a tree on a value comes to a node below it, at the end of a path: to the node in its
    position, on the value that stands there. -/
inductive Reaches : Assertion → Position → Value → List Step → Assertion → Position → Value → Prop
  | here (a : Assertion) (position : Position) (v : Value) : Reaches a position v [] a position v
  /-- To a field of an object, behind a schema. -/
  | field {form : SchemaForm} {fields : List (Value × Assertion)} {position q : Position}
      {v w : Value} {entries : List (Value × Value)} {key : Value} {a b : Assertion}
      {path : List Step} (hfield : (key, a) ∈ fields) (hkey : isCrossField key = .ok false)
      (hv : v.mapping? = some entries) (h : Reaches a .part (Entries.get entries key) path b q w) :
      Reaches (schema form fields) position v (.field key :: path) b q w
  /-- To a field of an object with rules. -/
  | objectField {form : SchemaForm} {fields : List (Value × Assertion)} {rules : ObjectRules}
      {position q : Position} {v w : Value} {entries : List (Value × Value)} {key : Value}
      {a b : Assertion} {path : List Step} (hfield : (key, a) ∈ fields)
      (hkey : isCrossField key = .ok false) (hv : v.mapping? = some entries)
      (h : Reaches a .part (Entries.get entries key) path b q w) :
      Reaches (object (schema form fields) none rules) position v (.field key :: path) b q w
  /-- To an element of an array. -/
  | element {element b : Assertion} {rules : ArrayRules} {position q : Position} {v w item : Value}
      {items : List Value} {index : Nat} {path : List Step} (hv : v.array? = some items)
      (hitem : items[index]? = some item) (h : Reaches element .part item path b q w) :
      Reaches (array element rules) position v (.element index :: path) b q w
  /-- To an item of a record. -/
  | item {item b : Assertion} {key crossField : Option Assertion} {keyField : Option String}
      {position q : Position} {v w : Value} {entries : List (Value × Value)}
      {entry : Value × Value} {path : List Step} (hv : v.mapping? = some entries)
      (hentry : entry ∈ entries) (h : Reaches item .part entry.2 path b q w) :
      Reaches (record item key keyField crossField) position v (.item entry.1 :: path) b q w
  /-- To a key of a record. -/
  | key {item key b : Assertion} {crossField : Option Assertion} {keyField : Option String}
      {position q : Position} {v w : Value} {entries : List (Value × Value)}
      {entry : Value × Value} {path : List Step} (hv : v.mapping? = some entries)
      (hentry : entry ∈ entries) (h : Reaches key .part entry.1 path b q w) :
      Reaches (record item (some key) keyField crossField) position v (.keyOf entry.1 :: path) b q w
  /-- Behind a value that is accepted, to what any other one has to satisfy. -/
  | fallback {expected v w : Value} {a b : Assertion} {position q : Position} {path : List Step}
      (hv : v.strictEq expected = false) (h : Reaches a .fallback v path b q w) :
      Reaches (valueOr expected a) position v path b q w

section Infix

theorem infix_fieldVisits {fields : List (Value × Assertion)} {key : Value} {a : Assertion}
    (hfield : (key, a) ∈ fields) (hkey : isCrossField key = .ok false) (v : Value)
    (entries : List (Value × Value)) :
    (visits a .part (Entries.get entries key)).map (.under (.field key)) <:+:
      fieldVisits fields v entries := by
  induction fields with
  | nil => exact absurd hfield List.not_mem_nil
  | cons field fields ih =>
      rcases field with ⟨other, d⟩
      rw [fieldVisits]
      rcases List.mem_cons.mp hfield with hhere | hthere
      · rcases Prod.mk.inj hhere with ⟨rfl, rfl⟩
        rw [hkey]
        exact (List.prefix_append _ _).isInfix
      · exact (ih hthere).trans (List.suffix_append _ _).isInfix

theorem infix_elementVisits (visits : Value → List Visit) {items : List Value} {k : Nat}
    {item : Value} (hitem : items[k]? = some item) (index : Nat) :
    (visits item).map (.under (.element (index + k))) <:+: elementVisits visits index items := by
  induction items generalizing k index with
  | nil => exact absurd hitem (by simp only [List.getElem?_nil, reduceCtorEq, not_false_eq_true])
  | cons first items ih =>
      rw [elementVisits]
      cases k with
      | zero =>
          rw [List.getElem?_cons_zero, Option.some.injEq] at hitem
          rw [hitem]
          exact (List.prefix_append _ _).isInfix
      | succ k =>
          rw [List.getElem?_cons_succ] at hitem
          have hrest := ih hitem (index + 1)
          rw [show index + 1 + k = index + (k + 1) by omega] at hrest
          exact hrest.trans (List.suffix_append _ _).isInfix

theorem infix_entryVisits (visitsOfKey visitsOfItem : Value → List Visit) (keyField : Option String)
    {entries : List (Value × Value)} {entry : Value × Value} (hentry : entry ∈ entries) :
    (visitsOfKey entry.1).map (.under (.keyOf entry.1)) <:+:
        entryVisits visitsOfKey visitsOfItem keyField entries ∧
      (visitsOfItem entry.2).map (.under (.item entry.1)) <:+:
        entryVisits visitsOfKey visitsOfItem keyField entries := by
  induction entries with
  | nil => exact absurd hentry List.not_mem_nil
  | cons other entries ih =>
      rcases other with ⟨key, item⟩
      rw [entryVisits]
      rcases List.mem_cons.mp hentry with rfl | hthere
      · exact ⟨(List.prefix_append _ _).isInfix,
          (List.prefix_append _ _).isInfix.trans (List.suffix_append _ _).isInfix⟩
      · -- The visits of the later entries stand behind those of this one.
        have hlater : entryVisits visitsOfKey visitsOfItem keyField entries <:+:
            (visitsOfKey key).map (.under (.keyOf key)) ++
              ((visitsOfItem item).map (.under (.item key)) ++
                (.under (.item key) (.here (.keyField keyField key) item) ::
                  entryVisits visitsOfKey visitsOfItem keyField entries)) :=
          ((List.suffix_cons _ _).trans (List.suffix_append _ _)).isInfix.trans
            (List.suffix_append _ _).isInfix
        exact ⟨(ih hthere).1.trans hlater, (ih hthere).2.trans hlater⟩

end Infix

/-- What stands among the visits of parts stands behind the own check of the container, and in
    front of what closes it. -/
theorem infix_parts {part parts : List Visit} (h : part <:+: parts) (visit : Visit)
    (closing : List Visit) : part <:+: visit :: (parts ++ closing) :=
  h.trans ((List.prefix_append _ _).isInfix.trans (List.suffix_cons _ _).isInfix)

theorem map_within_none (visits : List Visit) : visits.map (.within none) = visits := by
  have hid : Visit.within none = id := by
    funext visit
    rcases visit with ⟨inspection, w, _ | _, path⟩
    · rfl
    · rfl
  rw [hid, List.map_id]

/-- The visits of a node stand together among those of the tree. -/
theorem infix_visits_of_reaches {a b : Assertion} {position q : Position} {v w : Value}
    {path : List Step} (h : Reaches a position v path b q w) :
    (b.visits q w).map (.along path) <:+: a.visits position v := by
  induction h with
  | here a position v =>
      have hmap : (a.visits position v).map (Visit.along []) = a.visits position v := List.map_id _
      exact hmap.symm ▸ List.infix_rfl
  | field hfield hkey hv _ ih =>
      rw [map_along_cons, visits, hv]
      exact infix_parts ((ih.map _).trans (infix_fieldVisits hfield hkey _ _)) _ _
  | objectField hfield hkey hv _ ih =>
      rw [map_along_cons, visits, hv, map_within_none]
      exact infix_parts ((ih.map _).trans (infix_fieldVisits hfield hkey _ _)) _ _
  | @element element b rules position q v w item items index path hv hitem _ ih =>
      -- The first element of the array is counted as zero.
      have hhere := infix_elementVisits (visits element .part) hitem 0
      rw [Nat.zero_add] at hhere
      rw [map_along_cons, visits, hv]
      exact (ih.map _).trans (hhere.trans (List.suffix_cons _ _).isInfix)
  | @item item b key crossField keyField position q v w entries entry path hv hentry _ ih =>
      rw [map_along_cons, visits, hv]
      exact infix_parts ((ih.map _).trans (infix_entryVisits (visitsIfAny key .part)
        (visits item .part) keyField hentry).2) _ _
  | @key item key b crossField keyField position q v w entries entry path hv hentry _ ih =>
      have hhere := (infix_entryVisits (visitsIfAny (some key) .part) (visits item .part) keyField
        hentry).1
      rw [visitsIfAny] at hhere
      rw [map_along_cons, visits, hv]
      exact infix_parts ((ih.map _).trans hhere) _ _
  | fallback hv _ ih =>
      rw [visits, hv]
      simpa only [Bool.false_eq_true, if_false] using ih

/-- What holds at every node of a tree holds at every node of one below. -/
theorem everywhere_of_reaches {P : Assertion → Prop} {a b : Assertion} {position q : Position}
    {v w : Value} {path : List Step} (h : Reaches a position v path b q w)
    (ha : a.Everywhere P) : b.Everywhere P := by
  induction h with
  | here => exact ha
  | field hfield _ _ _ ih => exact ih (everywhere_of_mem ha.2 _ hfield)
  | objectField hfield _ _ _ ih => exact ih (everywhere_of_mem ha.2.2 _ hfield)
  | element _ _ _ ih => exact ih ha.2
  | item _ _ _ ih => exact ih ha.2.1
  | key _ _ _ ih => exact ih ha.2.2.1
  | fallback _ _ ih => exact ih ha.2

/-- Where a run comes to a node, it closes it when all that is below has passed, with the value
    of the node and at its place, and before it goes on with anything behind. -/
theorem run_closes {a b : Assertion} (ha : a.Everywhere IsOrderly) {position q : Position}
    {v w : Value} {path : List Step} (h : Reaches a position v path b q w) (c : Context) :
    ∃ front back, a.visits position v = front ++ (b.visits q w).map (.along path) ++ back ∧
      a.run position v c = (runVisits front c >>= fun _ =>
        b.unclosed.run q w (path.foldl Step.extend c) >>= fun _ =>
        b.runClosing w (path.foldl Step.extend c) >>= fun _ => runVisits back c) := by
  rcases infix_visits_of_reaches h with ⟨front, back, hvisits⟩
  refine ⟨front, back, hvisits.symm, ?_⟩
  rw [run_eq_runVisits, ← hvisits, runVisits_append, runVisits_append, runVisits_along,
    ← run_eq_runVisits, run_unclosed (everywhere_of_reaches h ha)]
  simp only [bind_assoc]

end Assertion

section Silence

variable (factory : ErrorFactory) (kind : Event → Bool)

/-- What leaves no event of a kind leaves none in a sequence either. -/
theorem free_compositional :
    Compositional fun {_} (x : Unit → Check _) => (x ()).cost factory kind = 0 where
  value a := Check.cost_pure factory kind a
  fault f := Check.cost_raise factory kind (.fault f)
  bind {_ _ x f} hx hf := by
    rw [Check.cost_bind, hx]
    rcases (x () factory).result with raised | a
    · rfl
    · exact (Nat.zero_add _).trans (hf a)

variable {factory kind} {c : Context}

/-- To evaluate a place leaves what it leaves to write it. -/
theorem Context.cost_evaluate (c : Context) :
    c.evaluate.cost factory kind = c.text.cost factory kind := by
  cases c with
  -- The start gives what its provider gives and writes it, every other place only writes.
  | root provider => exact (Check.cost_bind_ofExcept factory kind _ _).symm
  | _ => exact Check.cost_bind_pure factory kind _ _

theorem free_reporting (hc : c.text.cost factory kind = 0) :
    Reporting (fun {_} (x : Unit → Check _) => (x ()).cost factory kind = 0) fun _ => c where
  text write := by
    rw [Check.cost_failText, Check.cost_bind_ofExcept, hc]
  explain message v := by
    rw [Check.cost_fail, ← hc, ← Context.cost_evaluate]
    -- What follows the evaluation raises the exception given or writes, which leaves nothing.
    refine Check.cost_bind_of_free factory kind fun place => ?_
    cases place with
    | exception _ _ _ => rfl
    | _ => exact Check.cost_ofExcept_bind_pure factory kind _ _

end Silence

namespace Assertion

section Visits

variable {factory : ErrorFactory} {kind : Event → Bool} {a : Assertion}
  (ha : a.Everywhere IsOrderly) {position : Position} {v : Value}

include ha

/-- What is no call leaves no event of a kind, if neither identities nor the place do. -/
theorem visit_free (hquiet : a.Everywhere (IsQuiet factory kind)) {c : Context}
    (hc : c.text.cost factory kind = 0) {visit : Visit} (hmem : visit ∈ a.visits position v)
    (hcall : visit.call? = none) : (visit.run c).cost factory kind = 0 := by
  have hstem := visits_stem ha position v visit hmem
  have hstemQuiet := visits_stem hquiet position v visit hmem
  have hown := IsOrderly.visits_own ha position v visit hmem
  rcases visit with ⟨inspection, w, own, path⟩
  simp only at hown hstem hstemQuiet
  subst hown
  have htext : (path.foldl Step.extend c).text.cost factory kind = 0 := by
    rw [Context.text_foldl, ← hc]
    exact Check.cost_bind_of_free factory kind fun _ => Check.cost_ofExcept_bind_pure factory kind _ _
  have hreports := free_reporting htext
  -- What is left to call is an identity. It leaves nothing of the kind either.
  have hfits : inspection.Fits
      (fun {_} (x : Unit → Check _) => (x ()).cost factory kind = 0)
      fun _ => path.foldl Step.extend c := by
    cases inspection with
    | node b position =>
        cases b with
        | callable f => exact absurd hcall (by simp only [Visit.call?, reduceCtorEq,
            not_false_eq_true])
        | object inner own rules =>
            have hnone : own = none := hstem.2
            subst hnone
            exact hreports
        | array element rules => exact hstemQuiet
        | test predicate message => exact absurd hstem id
        | value w => exact absurd hstem id
        | _ => trivial
    | keyField field key => trivial
    | crossField key b => trivial
  exact Inspection.run_compositional (free_compositional factory kind) hreports hfits w

/-- A visit that is a call makes it. -/
theorem visit_run_eq_make {visit : Visit} (hmem : visit ∈ a.visits position v) {call : Call}
    (hcall : visit.call? = some call) (c : Context) : visit.run c = call.make c := by
  have hstem := visits_stem ha position v visit hmem
  have hown := IsOrderly.visits_own ha position v visit hmem
  rcases visit with ⟨inspection, w, own, path⟩
  simp only at hown hstem
  subst hown
  unfold Visit.call? at hcall
  split at hcall
  · next f position hinspection =>
      simp only at hinspection
      subst hinspection
      have htakes : f.signature.takes 2 = true := hstem
      rw [← Option.some.inj hcall, Call.make_eq_run htakes]
      rfl
  · exact absurd hcall (by simp only [reduceCtorEq, not_false_eq_true])

/-- What visits leave of a kind is what the calls among them leave. -/
theorem filter_visits (hquiet : a.Everywhere (IsQuiet factory kind)) {c : Context}
    (hc : c.text.cost factory kind = 0) {visits : List Visit}
    (hsub : ∀ visit ∈ visits, visit ∈ a.visits position v) :
    (visits.flatMap fun visit => (visit.run c factory).trace).filter kind =
      (visits.filterMap Visit.call?).flatMap fun call =>
        (call.make c factory).trace.filter kind := by
  induction visits with
  | nil => rfl
  | cons visit visits ih =>
      rcases List.forall_mem_cons.mp hsub with ⟨hmem, hrest⟩
      rw [List.flatMap_cons, List.filter_append, ih hrest]
      rcases hcall : visit.call? with _ | call
      · have hnone : (visit.run c factory).trace.filter kind = [] := by
          have hfree := visit_free ha hquiet hc hmem hcall
          rw [Check.cost, List.countP_eq_zero] at hfree
          exact List.filter_eq_nil_iff.mpr hfree
        rw [hnone, List.filterMap_cons_none hcall, List.nil_append]
      · rw [List.filterMap_cons_some hcall, List.flatMap_cons,
          visit_run_eq_make ha hmem hcall]

end Visits

/-- How far a run gets in the list of its calls. The calls that are made stand in front, those
    that are not behind. -/
structure Makes (factory : ErrorFactory) (kind : Event → Bool) (a : Assertion)
    (position : Position) (v : Value) (c : Context) (made rest : List Call) : Prop where
  /-- The calls are those of the traversal, in order. -/
  inOrder : a.calls position v = made ++ rest
  /-- The trace has the events of the calls that are made, and of nothing else. -/
  recorded : (a.run position v c factory).trace.filter kind =
    made.flatMap fun call => (call.make c factory).trace.filter kind
  /-- If the run passes, all calls are made, and pass. -/
  complete : (a.run position v c factory).result = .ok () →
    rest = [] ∧ ∀ call ∈ made, (call.make c factory).result = .ok ()
  /-- If the run raises, it is what the last call raised, or what a check raised that is no call.
      All calls in front have passed. -/
  failFast : ∀ raised, (a.run position v c factory).result = .error raised →
    (∃ front last, made = front ++ [last] ∧
      (∀ call ∈ front, (call.make c factory).result = .ok ()) ∧
      (last.make c factory).result = .error raised) ∨
    (∀ call ∈ made, (call.make c factory).result = .ok ()) ∧
      ∃ before visit after, a.visits position v = before ++ visit :: after ∧
        before.filterMap Visit.call? = made ∧ visit.call? = none ∧
        (visit.run c factory).result = .error raised

theorem run_makes {factory : ErrorFactory} {kind : Event → Bool} {a : Assertion}
    (ha : a.Everywhere IsOrderly) (hquiet : a.Everywhere (IsQuiet factory kind))
    (position : Position) (v : Value) {c : Context} (hc : c.text.cost factory kind = 0) :
    ∃ made rest, a.Makes factory kind position v c made rest := by
  have hrun := run_eq_runVisits a position v c
  have hcalls := calls_eq_filterMap_visits a ha position v
  have hpass : ∀ visits : List Visit, (∀ visit ∈ visits, visit ∈ a.visits position v) →
      (∀ visit ∈ visits, (visit.run c factory).result = .ok ()) →
        ∀ call ∈ visits.filterMap Visit.call?, (call.make c factory).result = .ok () := by
    intro visits hsub hall call hmem
    rcases List.mem_filterMap.mp hmem with ⟨visit, hvisit, hcall⟩
    rw [← visit_run_eq_make ha (hsub visit hvisit) hcall]
    exact hall visit hvisit
  rcases runVisits_cases (a.visits position v) c factory with
    ⟨hall, hresult⟩ | ⟨before, visit, after, raised, hvisits, hbefore, hvisit, hresult⟩
  · -- All visits pass, so all calls are made.
    refine ⟨a.calls position v, [], (List.append_nil _).symm, ?_, fun _ => ⟨rfl, ?_⟩,
      fun raised h => ?_⟩
    · rw [hrun, hresult, filter_visits ha hquiet hc fun _ hmem => hmem, hcalls]
    · rw [← hcalls]
      exact hpass _ (fun _ hmem => hmem) hall
    · rw [hrun, hresult] at h
      exact absurd h (by simp only [reduceCtorEq, not_false_eq_true])
  · -- The calls that are made are those up to the failing visit, which may be one itself.
    have hsub : ∀ earlier ∈ before ++ [visit], earlier ∈ a.visits position v := by
      intro earlier hmem
      rw [hvisits, List.append_cons]
      exact List.mem_append_left after hmem
    have hsubBefore : ∀ earlier ∈ before, earlier ∈ a.visits position v :=
      fun earlier hmem => hsub earlier (List.mem_append_left _ hmem)
    have hlast : visit ∈ a.visits position v :=
      hsub visit (List.mem_append_right _ (List.mem_singleton_self _))
    have htrace : (a.run position v c factory).trace =
        (before ++ [visit]).flatMap fun earlier => (earlier.run c factory).trace := by
      rw [hrun, hresult, List.flatMap_append, List.flatMap_cons, List.flatMap_nil, List.append_nil]
    refine ⟨(before ++ [visit]).filterMap Visit.call?, after.filterMap Visit.call?, ?_, ?_,
      fun h => ?_, fun other h => ?_⟩
    · rw [← hcalls, hvisits, List.append_cons, List.filterMap_append]
    · rw [htrace, filter_visits ha hquiet hc hsub]
    · rw [hrun, hresult] at h
      exact absurd h (by simp only [reduceCtorEq, not_false_eq_true])
    · rw [hrun, hresult] at h
      have hraised : raised = other := Except.error.inj h
      subst hraised
      have hfront := hpass before hsubBefore hbefore
      rw [List.filterMap_append]
      rcases hcall : visit.call? with _ | call
      · -- The run ends between two calls.
        rw [List.filterMap_cons_none hcall, List.filterMap_nil, List.append_nil]
        exact Or.inr ⟨hfront, before, visit, after, hvisits, rfl, hcall, hvisit⟩
      · rw [List.filterMap_cons_some hcall, List.filterMap_nil]
        refine Or.inl ⟨_, call, rfl, hfront, ?_⟩
        rw [← visit_run_eq_make ha hlast hcall]
        exact hvisit

/-- The functions of a tree are called in the order of the traversal, each on the value at its
    path and none twice, until the first failure. What closes a node is called if and when all
    else in it has passed, with the value of the node and with its context. This is said of every
    node, as what is below one is a tree of its own. -/
theorem run_makes_calls {factory : ErrorFactory} {kind : Event → Bool} {a : Assertion}
    (ha : a.Everywhere IsOrderly) (hquiet : a.Everywhere (IsQuiet factory kind))
    (position : Position) (v : Value) {c : Context} (hc : c.text.cost factory kind = 0) :
    (∃ made rest, a.Makes factory kind position v c made rest) ∧
      (∀ call ∈ a.calls position v, Leads v call.path call.value) ∧
      (v.HasDistinctKeys → ((a.calls position v).map Call.path).Nodup) ∧
      ∀ path b q w, Reaches a position v path b q w → ∃ front back,
        a.visits position v = front ++ (b.visits q w).map (.along path) ++ back ∧
          a.run position v c = (runVisits front c >>= fun _ =>
            b.unclosed.run q w (path.foldl Step.extend c) >>= fun _ =>
            b.runClosing w (path.foldl Step.extend c) >>= fun _ => runVisits back c) :=
  ⟨run_makes ha hquiet position v hc, calls_lead ha position v, calls_nodup a ha position v,
    fun _ _ _ _ h => run_closes ha h c⟩

/-- A function that leaves a call in the trace and then makes a check. -/
def logged (name : String) (check : Value → Check Unit) : Callable :=
  ⟨.unnamed, .assertion, fun v _ => Check.record (.called name v none) >>= fun _ =>
    check v >>= fun _ => pure .null⟩

/-- An order with lines and perhaps a note, and no other field. Lines and the order are closed. -/
def orderForm : Assertion :=
  object (schema .dict [(.text crossFieldKey, callable (logged "order" fun _ => pure ())),
    (.text "lines", array (schema .dict [
      (.text "item", callable (logged "item" fun v => Primitive.string.run v (.root none))),
      (.text crossFieldKey, callable (logged "line" fun _ => pure ()))]) .lenient),
    (.text "note", valueOr .undefined (callable (logged "note" fun _ => pure ())))])
    none ⟨true, .tuple .converted []⟩

/-- An order of two lines. -/
def orderOf (first second : Value) : Value :=
  .dict (.given 0) [(.text "lines", .list (.given 1) [
    .dict (.given 2) [(.text "item", first)], .dict (.given 3) [(.text "item", second)]])]

/-- Whether an event is the call of an assertion. -/
def isCall : Event → Bool
  | .called .. => true
  | _ => false

theorem orderForm_isOrderly : orderForm.Everywhere IsOrderly := by
  have htakes : ∀ name check, (logged name check).signature.takes 2 = true := fun _ _ => rfl
  have hline : FieldsOrderly [
      (.text "item", callable (logged "item" fun v => Primitive.string.run v (.root none))),
      (.text crossFieldKey, callable (logged "line" fun _ => pure ()))] := by
    intro field hmem
    simp only [List.mem_cons, List.not_mem_nil, or_false] at hmem
    rcases hmem with rfl | rfl
    · exact Or.inl (isCrossField_of_ne (by decide))
    · exact Or.inr ⟨rfl, _, rfl⟩
  have hlineKeys : [Value.text "item", .text crossFieldKey].Nodup := by
    simp [crossFieldKey]
  refine ⟨⟨⟨_, _, rfl⟩, rfl⟩, ⟨?_, ?_⟩, htakes _ _,
    ⟨trivial, ⟨hlineKeys, hline⟩, htakes _ _, htakes _ _, trivial⟩, ⟨trivial, htakes _ _⟩, trivial⟩
  · simp [crossFieldKey]
  · intro field hmem
    simp only [List.mem_cons, List.not_mem_nil, or_false] at hmem
    rcases hmem with rfl | rfl | rfl
    · exact Or.inr ⟨rfl, _, rfl⟩
    · exact Or.inl (isCrossField_of_ne (by decide))
    · exact Or.inl (isCrossField_of_ne (by decide))

theorem orderForm_isQuiet : orderForm.Everywhere (IsQuiet .standard isCall) := by
  refine ⟨trivial, trivial, trivial, ⟨fun identity hidentity => ?_, trivial, trivial, trivial,
    trivial⟩, ⟨trivial, trivial⟩, trivial⟩
  exact absurd hidentity (by simp only [ArrayRules.lenient, reduceCtorEq, not_false_eq_true])

theorem orderOf_hasDistinctKeys (first second : String) :
    (orderOf (.text first) (.text second)).HasDistinctKeys := by
  have htext : ∀ s, (Value.text s).HasDistinctKeys := fun _ => Value.throughout_of_scalar rfl rfl
  have hline : ∀ id s, (Value.dict id [(.text "item", .text s)]).HasDistinctKeys := by
    intro id s
    refine Value.throughout_of_mapping rfl (List.nodup_singleton _) fun entry hmem => ?_
    rw [List.mem_singleton.mp hmem]
    exact ⟨htext _, htext _⟩
  refine Value.throughout_of_mapping rfl (List.nodup_singleton _) fun entry hmem => ?_
  rw [List.mem_singleton.mp hmem]
  refine ⟨htext _, Value.throughout_of_array rfl fun item hmem => ?_⟩
  simp only [List.mem_cons, List.not_mem_nil, or_false] at hmem
  rcases hmem with rfl | rfl
  · exact hline _ _
  · exact hline _ _

theorem run_makes_calls_order :
    (∃ made, orderForm.Makes .standard isCall .called (orderOf (.text "tea") (.text "milk"))
        (.root none) made []) ∧
      ((orderForm.calls .called (orderOf (.text "tea") (.text "milk"))).map Call.path).Nodup := by
  have hcalls := run_makes_calls orderForm_isOrderly orderForm_isQuiet .called
    (orderOf (.text "tea") (.text "milk")) (c := .root none) rfl
  refine ⟨?_, hcalls.2.2.1 (orderOf_hasDistinctKeys "tea" "milk")⟩
  rcases hcalls.1 with ⟨made, rest, hmakes⟩
  have hrest : rest = [] := (hmakes.complete rfl).1
  exact ⟨made, hrest ▸ hmakes⟩

/-- The second line is not closed, nor is the order. -/
example : (orderForm.run .called (orderOf (.text "tea") .null) (.root none) .standard).trace =
    [.called "item" (.text "tea") none,
      .called "line" (.dict (.given 2) [(.text "item", .text "tea")]) none,
      .called "item" .null none] :=
  rfl

end Assertion

end Attest
