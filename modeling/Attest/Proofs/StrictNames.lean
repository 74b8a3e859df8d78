import Attest.Assert
import Attest.Proofs.CallOrder
import Attest.Proofs.KeyEquality

/-!
# Strict Names

What an object under strict rules leaves unchecked.

Two loops have to agree on what counts as a field. One goes over the keys of the value and asks
whether the schema declares them, the other one goes over the schema and takes the values of its
keys. They ask from different ends, the first one by the key of the value and the second one by
that of the schema, so that they agree takes two things: a mapping gives back what it stores under
each spelling of a key, and every entry of the schema is checked as a field.

The first one holds of every mapping. The second one holds of all entries but the cross-field
entry, whose key is declared like any other although what is stored under it is not looked at. It
is the one name that strict rules let pass without a check.

## Main definitions

* `Assertion.AppliesField`: A run applies the check of a field to a value.

## Theorems

* `appliesField_of_mem`: A run applies the check of each field.
* `assertObject_checks_names`: Under strict rules each name is allowed, checked, or the one of the
  cross-field entry.
* `assertObject_crossField_unchecked`: A value that is not checked.
-/

namespace Attest

namespace Assertion

variable {factory : ErrorFactory} {form : SchemaForm} {fields : List (Value × Assertion)}
  {rules : ObjectRules} {v : Value} {entries : List (Value × Value)} {c : Context}

/-- A run of an assertion on a value applies the check of a field to another value, at the place of
    the field: its visits stand together among those of the run, and the run is what stands in
    front, this check, and what stands behind. -/
def AppliesField (a : Assertion) (position : Position) (v : Value) (c : Context) (key : Value)
    (check : Assertion) (w : Value) : Prop :=
  ∃ front back,
    a.visits position v = front ++ (check.visits .part w).map (.along [.field key]) ++ back ∧
      a.run position v c = (runVisits front c >>= fun _ =>
        check.run .part w (.field c key) >>= fun _ => runVisits back c)

theorem appliesField_of_mem {key : Value} {check : Assertion} (hfield : (key, check) ∈ fields)
    (hkey : isCrossField key = .ok false) (hv : v.mapping? = some entries) (position : Position)
    (c : Context) :
    (object (schema form fields) none rules).AppliesField position v c key check
      (Entries.get entries key) := by
  have hreaches : Reaches (object (schema form fields) none rules) position v [.field key] check
      .part (Entries.get entries key) := .objectField hfield hkey hv (.here _ _ _)
  rcases infix_visits_of_reaches hreaches with ⟨front, back, hvisits⟩
  refine ⟨front, back, hvisits.symm, ?_⟩
  rw [run_eq_runVisits, ← hvisits, runVisits_append, runVisits_append, runVisits_along,
    ← run_eq_runVisits, bind_assoc]
  rfl

/-- Where a run passes that applies a check, the check passes. -/
theorem AppliesField.passes {a check : Assertion} {position : Position} {key w : Value}
    (h : a.AppliesField position v c key check w)
    (hpass : (a.run position v c factory).result = .ok ()) :
    (check.run .part w (.field c key) factory).result = .ok () := by
  rcases h with ⟨front, back, _, hrun⟩
  rw [hrun, Check.andThen_passes_iff, Check.andThen_passes_iff] at hpass
  exact hpass.2.1

/-- If an object passes under strict rules, each name of the value is allowed, or the key of an
    entry of the schema whose check has been applied to what the value stores under the name, or
    the key of the cross-field entry. -/
theorem assertObject_checks_names {store : Identity → List Value} (hstrict : rules.isStrict = true)
    (hv : v.mapping? = some entries) (hentries : Entries.IsMapping store entries)
    (hkeys : ∀ field ∈ fields, field.1.KeepsTo store)
    (hpass : (assertObject (schema form fields) rules v c factory).result = .ok ()) :
    ∀ entry ∈ entries, rules.Allows entry.1 ∨
      (∃ field ∈ fields, isCrossField field.1 = .ok true ∧ field.1.isSameKey entry.1 = true) ∨
      ∃ field ∈ fields, isCrossField field.1 = .ok false ∧ field.1.isSameKey entry.1 = true ∧
        (object (schema form fields) none rules).AppliesField .direct v c field.1 field.2 entry.2 ∧
        (field.2.run .part entry.2 (.field c field.1) factory).result = .ok () := by
  intro entry hmem
  rcases run_object_passes_iff.mp hpass with ⟨own, hown, _, hnames, hschema⟩
  rw [hv, Option.some.injEq] at hown
  subst hown
  rcases run_schema_passes_iff.mp hschema with ⟨_, own, hown, hfields, _⟩
  rw [hv, Option.some.injEq] at hown
  subst hown
  rcases hnames hstrict entry hmem with ⟨field, hfield, hsame⟩ | hallowed
  · -- A name counts as declared by any entry, but not every entry is a field.
    rcases isCrossField_of_runFields hfields field hfield with ⟨found, hfound⟩
    cases found with
    | true => exact Or.inr (Or.inl ⟨field, hfield, hfound, hsame⟩)
    | false =>
        -- The field looks for its own key, which need not be spelled as in the value.
        have hstored : Entries.get entries field.1 = entry.2 := by
          rw [Entries.get, Entries.find?_of_isSameKey hentries (hkeys field hfield) hmem hsame]
          rfl
        have happlies : (object (schema form fields) none rules).AppliesField .direct v c field.1
            field.2 entry.2 := hstored ▸ appliesField_of_mem hfield hfound hv .direct c
        exact Or.inr (Or.inr ⟨field, hfield, hfound, hsame, happlies, happlies.passes hpass⟩)
  · exact Or.inl hallowed

/-- A card with a name and a number under the key one, and a function that closes it. -/
def cardFields : List (Value × Assertion) :=
  [(.text "name", primitive .string), (.int 1, primitive .number),
    (.text crossFieldKey, callable .silent)]

/-- Under these rules a card may have a note, but nothing else. -/
def cardRules : ObjectRules :=
  ⟨true, .tuple (.given 1) [.text "note"]⟩

/-- The entries of a card, where the number is stored under another spelling of its key. -/
def cardEntries : List (Value × Value) :=
  [(.text "name", .text "ann"), (.bool true, .int 7), (.text "note", .null)]

theorem assertObject_checks_names_card :
    (assertObject (schema .dict cardFields) cardRules (.dict (.given 0) cardEntries) (.root none)
        .standard).result = .ok () ∧
      ∀ entry ∈ cardEntries, cardRules.Allows entry.1 ∨
        (∃ field ∈ cardFields, isCrossField field.1 = .ok true ∧
          field.1.isSameKey entry.1 = true) ∨
        ∃ field ∈ cardFields, isCrossField field.1 = .ok false ∧
          field.1.isSameKey entry.1 = true ∧
          (object (schema .dict cardFields) none cardRules).AppliesField .direct
            (.dict (.given 0) cardEntries) (.root none) field.1 field.2 entry.2 ∧
          (field.2.run .part entry.2 (.field (.root none) field.1) .standard).result = .ok () := by
  have hpass : (assertObject (schema .dict cardFields) cardRules (.dict (.given 0) cardEntries)
      (.root none) .standard).result = .ok () := rfl
  have hentries : Entries.IsMapping (fun _ => []) cardEntries :=
    ⟨by simp [cardEntries, Value.KeepsTo], by decide⟩
  have hkeys : ∀ field ∈ cardFields, field.1.KeepsTo fun _ => [] := by
    simp [cardFields, Value.KeepsTo]
  exact ⟨hpass, assertObject_checks_names rfl rfl hentries hkeys hpass⟩

/-- The key of the cross-field entry is neither allowed nor checked as a field, and passes. -/
theorem assertObject_crossField_unchecked :
    (assertObject (schema .dict [(.text crossFieldKey, callable .silent)])
        ⟨true, .tuple .converted []⟩ (.dict (.given 0) [(.text crossFieldKey, .int 1)]) (.root none)
        .standard).result = .ok () ∧
      ¬ (⟨true, .tuple .converted []⟩ : ObjectRules).Allows (.text crossFieldKey) ∧
      ∀ field ∈ [((.text crossFieldKey, callable .silent) : Value × Assertion)],
        isCrossField field.1 ≠ .ok false := by
  refine ⟨rfl, ?_, ?_⟩
  · rintro ⟨names, hnames, allowed, hmem, _⟩
    have hnone : names = [] := (Except.ok.inj hnames).symm
    exact absurd (hnone ▸ hmem) List.not_mem_nil
  · have hkey : isCrossField (.text crossFieldKey) = .ok true := rfl
    refine List.forall_mem_singleton.mpr ?_
    rw [hkey]
    simp only [ne_eq, Except.ok.injEq, Bool.true_eq_false, not_false_eq_true]

end Assertion

end Attest
