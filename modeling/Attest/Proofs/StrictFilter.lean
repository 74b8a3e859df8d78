import Attest.Assert
import Attest.Proofs.CallOrder

/-!
# Strict Rules as a Filter

Strict rules stand in front of a check and are no part of it.

An object is asked for its shape, then for its names, and then for its fields, and only the second
of these looks at the rules. So there are two cases. If each name is a field of the schema or
allowed, or if the value has no names because it is no mapping, then the check under strict rules is
the check without rules: not only its end but the whole computation is the same. Otherwise the first
name that is neither decides everything. It is the first one in the order of the value, and with it
the check ends: what is in the trace is what the place leaves there that is written for the message.

The rules are those of one object. A schema that is reached on the way down has none of its own,
and where the run comes to it, it makes the check of an object without rules. A part that is an
array is refused before that, with a hint of its own. So there is no way to make an object strict
from outside.

## Main definitions

* `Assertion.IsFirstUnknown`: The first name that strict rules refuse.

## Theorems

* `failAt_apply`: What a failure at a place leaves behind.
* `refuseUnknown_eq`: The loop over the names is a search for the first one that is unknown.
* `exists_firstUnknown`: If the rules are not kept, there is a first name that breaks them.
* `runNames_of_kept`, `runNames_of_firstUnknown`: The two ends of the loop.
* `Reaches.position`: What is reached below is a part or a fallback.
* `run_schema_eq`: In these positions a schema checks an object without rules.
* `assertObject_strict`: Strict rules are a filter in front of one object.
-/

namespace Attest

namespace Context

/-- A failure at a place leaves behind what writing the place does, and raises what the factory
    makes of the message, if the place can be written. The message is written before the place, and
    if it cannot be, the place is left alone. -/
theorem failAt_apply {α : Type} (message : Except Fault String) (c : Context)
    (factory : ErrorFactory) : message ≠ .ok "" →
    (c.failAt message : Check α) factory =
      match message with
      | .ok s => ⟨(c.text factory).trace,
          match (c.text factory).result with
          | .ok place => .error (factory (.text (joined place s)) [])
          | .error raised => .error raised⟩
      | .error fault => ⟨[], .error (.fault fault)⟩ := by
  intro h
  unfold failAt Check.failText Check.fail
  rcases message with fault | s
  · simp only [Check.ofExcept_error, Check.raise_bind]
    rfl
  rcases htext : c.text factory with ⟨trace, raised | place⟩
  · simp only [Check.ofExcept_ok, pure_bind, bind_assoc, Check.bind_apply_error htext]
  · have hne : joined place s ≠ "" := by
      unfold joined
      split
      · exact fun hempty => h (congrArg Except.ok hempty)
      · next hplace =>
          intro hempty
          exact hplace (String.append_eq_empty_iff.mp (String.append_eq_empty_iff.mp hempty).1).1
    have htruthy : (Value.text (joined place s)).isTruthy = true := decide_eq_true hne
    simp only [Check.ofExcept_ok, pure_bind, bind_assoc, Check.bind_apply_ok htext, htruthy,
      if_true, Check.violation, List.append_nil]

end Context

namespace Assertion

variable {form : SchemaForm} {fields : List (Value × Assertion)} {rules : ObjectRules}
  {entries : List (Value × Value)} {name : Value}

/-- Among entries this is the first name that strict rules refuse: it is neither a field of the
    schema nor allowed, and the names in front of it are. -/
def IsFirstUnknown (fields : List (Value × Assertion)) (rules : ObjectRules)
    (entries : List (Value × Value)) (name : Value) : Prop :=
  ∃ front item back, entries = front ++ (name, item) :: back ∧ NamesKept fields rules front ∧
    ¬ ((∃ field ∈ fields, field.1.isSameKey name = true) ∨ rules.Allows name)

/-- Of a list of names the first one is refused that is neither declared nor allowed. -/
theorem refuseUnknown_eq (declared : Value → Bool) (allowed names : List Value) (c : Context) :
    refuseUnknown (fun name => .ok (declared name)) allowed c names =
      match names.find? fun name => !(declared name || allowed.any (Value.isSameKey · name)) with
      | none => pure ()
      | some name => c.failAt (nameComplaint name) := by
  induction names with
  | nil => rfl
  | cons name names ih =>
      simp only [refuseUnknown, Check.ofExcept_ok, pure_bind, List.find?_cons]
      cases hname : declared name || allowed.any (Value.isSameKey · name) with
      | true => simpa only [if_true, Bool.not_true] using ih
      | false => simp only [Bool.false_eq_true, if_false, Bool.not_false]

/-- If the names do not keep the rules, one of them is the first that breaks them. -/
theorem exists_firstUnknown (hstrict : rules.isStrict = true)
    (h : ¬ NamesKept fields rules entries) : ∃ name, IsFirstUnknown fields rules entries name := by
  induction entries with
  | nil => exact absurd (fun _ entry hmem => absurd hmem List.not_mem_nil) h
  | cons entry entries ih =>
      rcases entry with ⟨name, item⟩
      by_cases hname : (∃ field ∈ fields, field.1.isSameKey name = true) ∨ rules.Allows name
      · -- This name is known, so the rules are broken further behind.
        have hrest : ¬ NamesKept fields rules entries := fun hkept =>
          h fun _ => List.forall_mem_cons.mpr ⟨hname, hkept hstrict⟩
        rcases ih hrest with ⟨first, front, found, back, rfl, hfront, hfirst⟩
        have hfront' : NamesKept fields rules ((name, item) :: front) := fun _ =>
          List.forall_mem_cons.mpr ⟨hname, hfront hstrict⟩
        exact ⟨first, (name, item) :: front, found, back, rfl, hfront', hfirst⟩
      · exact ⟨name, [], item, entries, rfl, fun _ _ hmem => absurd hmem List.not_mem_nil, hname⟩

/-- What is wrong with a name is never said by an empty text. -/
theorem nameComplaint_ne (name : Value) : nameComplaint name ≠ .ok "" :=
  bind_ne_empty fun s => ok_append_ne_empty (by decide) s

section Names

variable (hstrict : rules.isStrict = true) (hallowed : rules.AllowKeys)
include hstrict hallowed

/-- Strict rules search the names for one that is neither a field of the schema nor allowed. -/
theorem exists_runNames_eq (form : SchemaForm) (fields : List (Value × Assertion)) :
    ∃ isUnknown : Value → Bool,
    (∀ name, isUnknown name = false ↔
      (∃ field ∈ fields, field.1.isSameKey name = true) ∨ rules.Allows name) ∧
    ∀ (entries : List (Value × Value)) (c : Context),
      runNames (schema form fields).declares rules entries c =
        match (entries.map (·.1)).find? isUnknown with
        | none => pure ()
        | some name => c.failAt (nameComplaint name) := by
  rcases hallowed hstrict with ⟨names, hnames, hkeys⟩
  refine ⟨fun name => !((fields.any fun field => field.1.isSameKey name) ||
    names.any (Value.isSameKey · name)), fun name => ?_, fun entries c => ?_⟩
  · simp only [Bool.not_eq_false', Bool.or_eq_true, List.any_eq_true, ObjectRules.Allows, hnames,
      Except.ok.injEq, exists_eq_left']
  · have hdeclares : (schema form fields).declares =
        fun name => .ok (fields.any fun field => field.1.isSameKey name) := rfl
    simp only [runNames, hstrict, if_true, hnames, hkeys, Check.ofExcept_ok, pure_bind, hdeclares]
    exact refuseUnknown_eq _ names (entries.map (·.1)) c

theorem runNames_of_kept (h : NamesKept fields rules entries) (c : Context) :
    runNames (schema form fields).declares rules entries c = pure () := by
  rcases exists_runNames_eq hstrict hallowed form fields with ⟨isUnknown, hknown, hrun⟩
  have hnone : (entries.map (·.1)).find? isUnknown = none := by
    refine List.find?_eq_none.mpr (List.forall_mem_map.mpr fun entry hmem => ?_)
    rw [(hknown entry.1).mpr (h hstrict entry hmem)]
    exact Bool.false_ne_true
  rw [hrun, hnone]

theorem runNames_of_firstUnknown (h : IsFirstUnknown fields rules entries name) (c : Context) :
    runNames (schema form fields).declares rules entries c =
      c.failAt (nameComplaint name) := by
  rcases exists_runNames_eq hstrict hallowed form fields with ⟨isUnknown, hknown, hrun⟩
  rcases h with ⟨front, item, back, rfl, hfront, hname⟩
  have hfirst : ((front ++ (name, item) :: back).map (·.1)).find? isUnknown = some name := by
    refine List.find?_eq_some_iff_append.mpr ⟨?_, front.map (·.1), back.map (·.1), ?_, ?_⟩
    · exact Bool.of_not_eq_false fun hfalse => hname ((hknown name).mp hfalse)
    · rw [List.map_append, List.map_cons]
    · refine List.forall_mem_map.mpr fun entry hmem => ?_
      rw [(hknown entry.1).mpr (hfront hstrict entry hmem)]
      rfl
  rw [hrun, hfirst]

end Names

/-- What a run comes to is where it starts, or a part, or a fallback. -/
theorem Reaches.position {a b : Assertion} {position q : Position} {v w : Value} {path : List Step}
    (h : Reaches a position v path b q w) : (a = b ∧ position = q) ∨ q = .part ∨ q = .fallback := by
  have hpart : ∀ {p : Prop} {q : Position}, (p ∧ .part = q) ∨ q = .part ∨ q = .fallback →
      q = .part ∨ q = .fallback := fun h => h.elim (fun hhere => Or.inl hhere.2.symm) id
  -- A path that ends behind a step ends in the position that the step leads to.
  induction h with
  | here => exact Or.inl ⟨rfl, rfl⟩
  | fallback _ _ ih => exact Or.inr (ih.elim (fun hhere => Or.inr hhere.2.symm) id)
  | field _ _ _ _ ih => exact Or.inr (hpart ih)
  | objectField _ _ _ _ ih => exact Or.inr (hpart ih)
  | element _ _ _ ih => exact Or.inr (hpart ih)
  | item _ _ _ ih => exact Or.inr (hpart ih)
  | key _ _ _ ih => exact Or.inr (hpart ih)

/-- The check of an object without rules asks for nothing but its shape and its fields. -/
theorem assertObject_lenient_eq (v : Value) (c : Context) :
    assertObject (schema form fields) .lenient v c = (objectEntries v c >>= fun entries =>
      runFields fields entries c >>= fun _ => runCrossField fields v c) := by
  simp only [assertObject, run, placeOf, runNames, ObjectRules.lenient, Bool.false_eq_true,
    if_false, pure_bind]

/-- As a part or a fallback a schema checks an object without rules, unless it is a part and its
    value an array. -/
theorem run_schema_eq {position : Position} (h : position = .part ∨ position = .fallback)
    (v : Value) (c : Context) : (schema form fields).run position v c =
      if position = .part ∧ v.isArray = true then
        c.failBehind (.ok " use array_assertion() to create a value assertion for an array")
      else assertObject (schema form fields) .lenient v c := by
  rw [assertObject_lenient_eq]
  rcases h with rfl | rfl
  · by_cases harray : v.isArray = true
    · simp only [run, harray, if_true, and_self, Context.failBehind_bind]
    · simp only [run, harray, if_false, and_false, Bool.false_eq_true]
  · simp only [run, reduceCtorEq, false_and, if_false]

/-- Strict rules are a filter in front of an object. A value that is no mapping, or whose names are
    fields of the schema or allowed, is checked as without rules. Any other mapping is refused for
    its first unknown name, before anything else is called than the provider of the place, and with
    what is in the way of writing the name, if it cannot be written. What is reached below by way of
    a schema is checked as without rules. -/
theorem assertObject_strict (form : SchemaForm) (fields : List (Value × Assertion))
    (hstrict : rules.isStrict = true) (hallowed : rules.AllowKeys) (v : Value) (c : Context) :
    ((∀ entries, v.mapping? = some entries → NamesKept fields rules entries) →
      assertObject (schema form fields) rules v c =
        assertObject (schema form fields) .lenient v c) ∧
    (∀ entries, v.mapping? = some entries → ¬ NamesKept fields rules entries →
      ∃ name, IsFirstUnknown fields rules entries name ∧ Written name.IsWritable name.plain ∧
        ∀ factory, assertObject (schema form fields) rules v c factory =
          match name.plain with
          | .ok s => ⟨(c.text factory).trace,
              match (c.text factory).result with
              | .ok place => .error (factory (.text (if place = "" then
                  "property can't be checked: " ++ s
                else place ++ " " ++ ("property can't be checked: " ++ s))) [])
              | .error raised => .error raised⟩
          | .error fault => ⟨[], .error (.fault fault)⟩) ∧
    ∀ path inner shape position w,
      Reaches (object (schema form fields) none rules) .direct v path (schema shape inner) position
        w →
      ∃ front back,
        (object (schema form fields) none rules).visits .direct v =
          front ++ ((schema shape inner).visits position w).map (.along path) ++ back ∧
        assertObject (schema form fields) rules v c = (runVisits front c >>= fun _ =>
          (if position = .part ∧ w.isArray = true then
            (path.foldl Step.extend c).failBehind
              (.ok " use array_assertion() to create a value assertion for an array")
          else assertObject (schema shape inner) .lenient w (path.foldl Step.extend c)) >>= fun _ =>
          runVisits back c) := by
  have hrun : assertObject (schema form fields) rules v c = (objectEntries v c >>= fun entries =>
      runNames (schema form fields).declares rules entries c >>= fun _ =>
      runFields fields entries c >>= fun _ => runCrossField fields v c) := by
    simp only [assertObject, run, placeOf]
  refine ⟨fun hkept => ?_, fun entries hv hbroken => ?_, fun path inner shape position w h => ?_⟩
  · rw [hrun, assertObject_lenient_eq]
    rcases hv : v.mapping? with _ | entries
    · rcases objectEntries_of_not_mapping hv with ⟨message, hentries⟩
      simp only [hentries, Context.failAt_bind]
    · simp only [objectEntries_of_mapping hv, pure_bind,
        runNames_of_kept hstrict hallowed (hkept entries hv)]
  · rcases exists_firstUnknown hstrict hbroken with ⟨name, hname⟩
    refine ⟨name, hname, Value.plain_written id, fun factory => ?_⟩
    rw [hrun, objectEntries_of_mapping hv, pure_bind,
      runNames_of_firstUnknown hstrict hallowed hname, Context.failAt_bind,
      Context.failAt_apply _ _ _ (nameComplaint_ne name), nameComplaint]
    cases name.plain <;> rfl
  · -- The object itself is no schema, so what is reached lies below it.
    have hposition : position = .part ∨ position = .fallback :=
      h.position.resolve_left fun hsame => absurd hsame.1 (by simp only [reduceCtorEq,
        not_false_eq_true])
    rcases infix_visits_of_reaches h with ⟨front, back, hvisits⟩
    refine ⟨front, back, hvisits.symm, ?_⟩
    rw [← run_schema_eq hposition]
    unfold assertObject
    rw [run_eq_runVisits, ← hvisits, runVisits_append, runVisits_append, runVisits_along,
      ← run_eq_runVisits, bind_assoc]

/-- A name of too many digits is not reported: what is raised is the error of writing it. -/
theorem overlong_name_unreported :
    (assertObject (schema .dict []) ⟨true, .list (.given 1) []⟩
      (.dict (.given 0) [(.overlong, .int 1)]) (.root none) .standard).result =
        .error (.fault .integerTooLong) := by
  have hname : ∀ name, assertObject (schema .dict []) ⟨true, .list (.given 1) []⟩
      (.dict (.given 0) [(name, .int 1)]) (.root none) =
        (Context.root none).failAt (nameComplaint name) := by
    intro name
    have hnames : runNames (schema .dict []).declares ⟨true, .list (.given 1) []⟩
        [(name, .int 1)] (.root none) = (Context.root none).failAt (nameComplaint name) := rfl
    have hentries : objectEntries (.dict (.given 0) [(name, .int 1)]) (.root none) =
        pure [(name, .int 1)] := rfl
    simp only [assertObject, run, placeOf, hentries, pure_bind, hnames, Context.failAt_bind]
  rw [hname, Context.failAt_apply _ _ _ (nameComplaint_ne .overlong), nameComplaint,
    Value.plain_overlong]
  rfl

/-- A place has a town. -/
def townFields : List (Value × Assertion) :=
  [(.text "town", primitive .string)]

/-- A badge has a name and a place, and is closed by a function. -/
def badgeFields : List (Value × Assertion) :=
  [(.text "name", primitive .string), (.text "at", schema .dict townFields),
    (.text crossFieldKey, callable .silent)]

/-- Under these rules a badge may have a note, but nothing else. -/
def badgeRules : ObjectRules :=
  ⟨true, .tuple (.given 1) [.text "note"]⟩

/-- The entries of a badge, with a note and with one entry more in its place. -/
def badgeEntries : List (Value × Value) :=
  [(.text "note", .null),
    (.text "at", .dict (.given 2) [(.text "zip", .int 7), (.text "town", .text "ulm")]),
    (.text "name", .text "ann")]

/-- The entries of a badge with names that it may not have, and without a name. -/
def wideEntries : List (Value × Value) :=
  [(.text "note", .null), (.text "size", .int 3), (.text "hue", .text "red")]

theorem badgeRules_allows : badgeRules.Allows (.text "note") :=
  ⟨[.text "note"], rfl, .text "note", List.mem_singleton_self _, by decide⟩

theorem badgeEntries_kept : NamesKept badgeFields badgeRules badgeEntries := by
  intro _
  refine List.forall_mem_cons.mpr ⟨Or.inr badgeRules_allows, List.forall_mem_cons.mpr ⟨?_,
    List.forall_mem_singleton.mpr ?_⟩⟩
  · exact Or.inl ⟨_, List.mem_cons_of_mem _ List.mem_cons_self, by decide⟩
  · exact Or.inl ⟨_, List.mem_cons_self, by decide⟩

theorem wideEntries_broken : ¬ NamesKept badgeFields badgeRules wideEntries := by
  intro h
  rcases h rfl (.text "size", .int 3) (List.mem_cons_of_mem _ List.mem_cons_self) with
    ⟨field, hmem, hsame⟩ | ⟨names, hnames, allowed, hmem, hsame⟩
  · simp only [badgeFields, List.mem_cons, List.not_mem_nil, or_false] at hmem
    rcases hmem with rfl | rfl | rfl <;> exact absurd hsame (by decide)
  · rw [← Except.ok.inj hnames, List.mem_singleton] at hmem
    rw [hmem] at hsame
    exact absurd hsame (by decide)

theorem assertObject_strict_badge :
    badgeRules.isStrict = true ∧ badgeRules.AllowKeys ∧
      NamesKept badgeFields badgeRules badgeEntries ∧
      assertObject (schema .dict badgeFields) badgeRules (.dict (.given 0) badgeEntries)
          (.root none) =
        assertObject (schema .dict badgeFields) .lenient (.dict (.given 0) badgeEntries)
          (.root none) ∧
      ¬ NamesKept badgeFields badgeRules wideEntries ∧
      (∃ name s, IsFirstUnknown badgeFields badgeRules wideEntries name ∧ name.plain = .ok s ∧
        ((assertObject (schema .dict badgeFields) badgeRules (.dict (.given 0) wideEntries)
          (.root none) .standard).result = .error (.built .schemaError
            [.text ("property can't be checked: " ++ s)]))) ∧
      ∃ front back, assertObject (schema .dict badgeFields) badgeRules
          (.dict (.given 0) badgeEntries) (.root none) =
        (runVisits front (.root none) >>= fun _ =>
          assertObject (schema .dict townFields) .lenient
            (.dict (.given 2) [(.text "zip", .int 7), (.text "town", .text "ulm")])
            (.field (.root none) (.text "at")) >>= fun _ => runVisits back (.root none)) := by
  have hstrict : badgeRules.isStrict = true := rfl
  have hallowed : badgeRules.AllowKeys := fun _ => ⟨_, rfl, rfl⟩
  have hbadge := assertObject_strict .dict badgeFields hstrict hallowed
    (.dict (.given 0) badgeEntries) (.root none)
  have hwide := assertObject_strict .dict badgeFields hstrict hallowed
    (.dict (.given 0) wideEntries) (.root none)
  refine ⟨hstrict, hallowed, badgeEntries_kept, hbadge.1 fun entries hv => ?_, wideEntries_broken,
    ?_, ?_⟩
  · exact Option.some.inj hv ▸ badgeEntries_kept
  · rcases hwide.2.1 wideEntries rfl wideEntries_broken with ⟨name, hname, hwritten, hrun⟩
    have hwritable : name.IsWritable := by
      rcases hname with ⟨front, item, back, hentries, _⟩
      have hmem : (name, item) ∈ wideEntries :=
      hentries ▸ List.mem_append_right front List.mem_cons_self
      simp only [wideEntries, List.mem_cons, Prod.mk.injEq, List.not_mem_nil, or_false] at hmem
      rcases hmem with ⟨rfl, _⟩ | ⟨rfl, _⟩ | ⟨rfl, _⟩ <;> trivial
    rcases hwritten.exists_ok hwritable with ⟨s, hs⟩
    refine ⟨name, s, hname, hs, ?_⟩
    rw [hrun, hs]
    rfl
  · have hreaches : Reaches (object (schema .dict badgeFields) none badgeRules) .direct
        (.dict (.given 0) badgeEntries) [.field (.text "at")] (schema .dict townFields) .part
        (.dict (.given 2) [(.text "zip", .int 7), (.text "town", .text "ulm")]) :=
      .objectField (List.mem_cons_of_mem _ List.mem_cons_self) rfl rfl (.here _ _ _)
    rcases hbadge.2.2 _ _ _ _ _ hreaches with ⟨front, back, _, hrun⟩
    exact ⟨front, back, hrun⟩

end Assertion

end Attest
