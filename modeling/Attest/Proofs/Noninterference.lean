import Attest.Assert
import Attest.Proofs.CallOrder
import Attest.Proofs.KeyEquality

/-!
# What a Schema Does Not Name

Two values that agree in all that a schema names are checked in one and the same way.

A schema reads an object field by field, by its own keys and in its own order. Whatever else an
object holds, it can only come to light where something looks at the object as a whole, and this is
what a cross-field entry does. A schema is open if neither it nor a schema that it reaches from
field to field has such an entry. `Alike` goes down two values along a schema, and asks of a field
that it holds the same value in both, unless the field has a schema of its own: then it may hold two
mappings, and the same is asked of these. An open schema cannot tell such values apart. This is said
of the runs as computations, so they end in the same way, with the same message, and have made the
same calls on the way, under every error factory and whatever the leaves do.

The differences that this covers are the ones that `Overlooks` lists: the kind of a mapping, the
order of its entries, an entry that no field names, and one that holds the value that does not
exist, each of them in the value itself or at any depth below. Two of these rest on a mapping having
each key once.

## Main definitions

* `Assertion.IsOpen`: No object is looked at as a whole on the way from field to field.
* `Assertion.Alike`: Two values agree in all that an assertion names.
* `Assertion.Overlooks`: A difference that fields do not see.

## Theorems

* `find?_eq_some_iff`: What a mapping stores under a key.
* `find?_of_perm`: The order of the entries does not matter to what is stored.
* `runCrossField_of_open`: An open schema does not look at the whole.
* `run_of_alike`, `runFields_of_alike`: Values that are alike are checked in the same way.
* `fieldsAlike_of_overlooks`: What fields do not see leaves values alike.
* `assertObject_of_alike`: An open schema cannot tell such values apart.
-/

namespace Attest

namespace Entries

variable {store : Identity → List Value} {entries others front back : List (Value × Value)}
  {key k x : Value}

theorem find?_append (front back : List (Value × Value)) (key : Value) :
    find? (front ++ back) key = (find? front key).or (find? back key) := by
  simp only [find?, List.find?_append, Option.map_or]

theorem find?_cons (k x : Value) (entries : List (Value × Value)) (key : Value) :
    find? ((k, x) :: entries) key = if k.isSameKey key then some x else find? entries key := by
  unfold find?
  cases hsame : k.isSameKey key with
  | true => simp only [List.find?_cons, hsame, if_true, Option.map_some]
  | false => simp only [List.find?_cons, hsame, Bool.false_eq_true, if_false]

/-- What a mapping stores under a key is what stands in the entry with this key. -/
theorem find?_eq_some_iff (h : IsMapping store entries) (hkey : key.KeepsTo store) :
    find? entries key = some x ↔ ∃ k, (k, x) ∈ entries ∧ k.isSameKey key = true := by
  constructor
  · intro hfind
    rcases Option.map_eq_some_iff.mp hfind with ⟨⟨k, _⟩, hfirst, rfl⟩
    have hsame : k.isSameKey key = true := by
      simpa only using List.find?_some hfirst
    exact ⟨k, List.mem_of_find?_eq_some hfirst, hsame⟩
  · rintro ⟨k, hmem, hsame⟩
    exact find?_of_isSameKey h hkey hmem (Value.isSameKey_symm (h.kept _ hmem) hkey hsame)

theorem IsMapping.of_perm (h : IsMapping store entries) (hperm : entries.Perm others) :
    IsMapping store others := by
  have hkept : ∀ entry ∈ others, entry.1.KeepsTo store :=
    fun entry hmem => h.kept entry (hperm.mem_iff.mpr hmem)
  -- Being different is symmetric for keys that keep to the store only.
  let differ := fun entry later : Value × Value => entry.1.KeepsTo store → later.1.KeepsTo store →
    entry.1.isSameKey later.1 = false
  have hsymm : ∀ {entry later}, differ entry later → differ later entry := by
    intro entry later hdiffer hlater hentry
    refine Bool.eq_false_iff.mpr fun hsame => ?_
    have hback := Value.isSameKey_symm hlater hentry hsame
    rw [hdiffer hentry hlater] at hback
    exact Bool.false_ne_true hback
  have hdiffer : others.Pairwise differ :=
    (hperm.pairwise_iff hsymm).mp (h.distinct.imp fun hne _ _ => hne)
  exact ⟨hkept, hdiffer.imp_of_mem fun hentry hlater hne => hne (hkept _ hentry) (hkept _ hlater)⟩

/-- The order of the entries does not matter to what is stored. -/
theorem find?_of_perm (h : IsMapping store entries) (hperm : entries.Perm others)
    (hkey : key.KeepsTo store) : find? entries key = find? others key := by
  refine Option.ext fun x => ?_
  rw [find?_eq_some_iff h hkey, find?_eq_some_iff (h.of_perm hperm) hkey]
  simp only [hperm.mem_iff]

/-- An entry under another key does not matter to what is stored. -/
theorem find?_of_other (hother : k.isSameKey key = false) (front back : List (Value × Value)) :
    find? (front ++ (k, x) :: back) key = find? (front ++ back) key := by
  rw [find?_append, find?_append, find?_cons, hother, if_neg Bool.false_ne_true]

/-- No other entry stands behind one with the same key. -/
theorem IsMapping.find?_back (h : IsMapping store (front ++ (k, x) :: back))
    (hkey : key.KeepsTo store) (hsame : k.isSameKey key = true) : find? back key = none := by
  have hk : k.KeepsTo store := h.kept (k, x) List.mem_append_cons_self
  refine Option.map_eq_none_iff.mpr (List.find?_eq_none.mpr fun entry hmem hmet => ?_)
  -- Two entries that are both met under one spelling of a key have the same key.
  have hentry : entry.1.KeepsTo store :=
    h.kept entry (List.mem_append_right _ (List.mem_cons_of_mem _ hmem))
  have hboth := Value.isSameKey_trans hk hkey hentry hsame (Value.isSameKey_symm hentry hkey hmet)
  have hdiffer := (List.pairwise_cons.mp (List.pairwise_append.mp h.distinct).2.1).1 entry hmem
  rw [hdiffer] at hboth
  exact Bool.false_ne_true hboth

/-- To hold the value that does not exist is the same as not to be there. -/
theorem get_of_undefined (h : IsMapping store (front ++ (k, .undefined) :: back))
    (hkey : key.KeepsTo store) :
    get (front ++ (k, .undefined) :: back) key = get (front ++ back) key := by
  by_cases hsame : k.isSameKey key = true
  · unfold get
    rw [find?_append, find?_append, find?_cons, if_pos hsame, h.find?_back hkey hsame]
    cases find? front key <;> rfl
  · unfold get
    rw [find?_of_other (Bool.eq_false_iff.mpr hsame)]

end Entries

namespace Assertion

mutual

/-- No object is looked at as a whole by the schemas that are reached from field to field: no key
    of theirs is equal to the one of the cross-field entry. -/
def IsOpen : Assertion → Prop
  | schema _ fields => FieldsOpen fields
  | _ => True

/-- The entries of an open schema. -/
def FieldsOpen : List (Value × Assertion) → Prop
  | [] => True
  | (key, a) :: fields => isCrossField key ≠ .ok true ∧ IsOpen a ∧ FieldsOpen fields

end

mutual

/-- Two values agree in all that an assertion names. For a schema they are the same value, or both
    mappings whose fields are alike, and for everything else they are the same value. -/
def Alike : Assertion → Value → Value → Prop
  | schema _ fields, v, w => v = w ∨ ∃ entries others, v.mapping? = some entries ∧
      w.mapping? = some others ∧ FieldsAlike fields entries others
  | _, v, w => v = w

/-- The fields that a schema names are alike in two objects. -/
def FieldsAlike : List (Value × Assertion) → List (Value × Value) → List (Value × Value) → Prop
  | [], _, _ => True
  | (key, a) :: fields, entries, others =>
    Alike a (Entries.get entries key) (Entries.get others key) ∧ FieldsAlike fields entries others

end

/-- A difference between two values that fields do not see. -/
inductive Overlooks : List (Value × Assertion) → Value → Value → Prop where
  /-- The mappings are of different kinds, or different objects. -/
  | kind {fields : List (Value × Assertion)} {v w : Value} {entries : List (Value × Value)} :
      v.mapping? = some entries → w.mapping? = some entries → Overlooks fields v w
  /-- The entries stand in another order. -/
  | order {fields : List (Value × Assertion)} {v w : Value} {entries others : List (Value × Value)}
      {store : Identity → List Value} :
      v.mapping? = some entries → w.mapping? = some others → entries.Perm others →
        Entries.IsMapping store entries → (∀ field ∈ fields, field.1.KeepsTo store) →
        Overlooks fields v w
  /-- One of them has an entry that no field names. -/
  | further {fields : List (Value × Assertion)} {v w key x : Value}
      (front back : List (Value × Value)) :
      v.mapping? = some (front ++ (key, x) :: back) → w.mapping? = some (front ++ back) →
        (∀ field ∈ fields, key.isSameKey field.1 = false) → Overlooks fields v w
  /-- One of them has an entry that holds the value that does not exist. -/
  | absent {fields : List (Value × Assertion)} {v w key : Value} {store : Identity → List Value}
      (front back : List (Value × Value)) :
      v.mapping? = some (front ++ (key, .undefined) :: back) → w.mapping? = some (front ++ back) →
        Entries.IsMapping store (front ++ (key, .undefined) :: back) →
        (∀ field ∈ fields, field.1.KeepsTo store) → Overlooks fields v w
  /-- An entry is different in a way that the schema of its field does not see. -/
  | deeper {fields inner : List (Value × Assertion)} {form : SchemaForm} {v w key x y : Value}
      (front back : List (Value × Value)) :
      v.mapping? = some (front ++ (key, x) :: back) →
        w.mapping? = some (front ++ (key, y) :: back) →
        (∀ field ∈ fields, key.isSameKey field.1 = true → field.2 = schema form inner) →
        Overlooks inner x y → Overlooks fields v w

section Runs

/-- An open schema does not look at the whole. -/
theorem runCrossField_of_open {fields : List (Value × Assertion)} (h : FieldsOpen fields)
    (v w : Value) (c : Context) : runCrossField fields v c = runCrossField fields w c := by
  induction fields with
  | nil => rfl
  | cons field fields ih =>
      rcases field with ⟨key, a⟩
      rcases h with ⟨hkey, _, hfields⟩
      rw [runCrossField, runCrossField]
      rcases hcross : isCrossField key with fault | found
      · rfl
      · cases found with
        | true => exact absurd hcross hkey
        | false =>
            simp only [Check.ofExcept_ok, pure_bind, Bool.false_and, Bool.false_eq_true, if_false]
            exact ih hfields

theorem isArray_of_mapping {v : Value} {entries : List (Value × Value)}
    (h : v.mapping? = some entries) : v.isArray = false := by
  refine Bool.eq_false_iff.mpr fun harray => ?_
  rw [Value.mapping?_of_isArray harray] at h
  exact absurd h (by simp only [reduceCtorEq, not_false_eq_true])

mutual

/-- Values that are alike are checked in the same way as parts of an object. -/
theorem run_of_alike : ∀ (a : Assertion), a.IsOpen → ∀ (v w : Value), a.Alike v w →
    ∀ c : Context, a.run .part v c = a.run .part w c
  | schema form fields, ha, v, w, h, c => by
      rcases h with rfl | ⟨entries, others, hv, hw, hfields⟩
      · rfl
      · -- Two mappings pass the test of their shape without a trace, and only fields are left.
        simp only [run, isArray_of_mapping hv, isArray_of_mapping hw, Bool.false_eq_true, if_false,
          pure_bind, objectEntries_of_mapping hv, objectEntries_of_mapping hw]
        rw [runFields_of_alike fields ha entries others hfields c, runCrossField_of_open ha v w c]
  | primitive .., _, v, w, h, c => congrArg (run _ .part · c) h
  | test .., _, v, w, h, c => congrArg (run _ .part · c) h
  | boundedText .., _, v, w, h, c => congrArg (run _ .part · c) h
  | object .., _, v, w, h, c => congrArg (run _ .part · c) h
  | array .., _, v, w, h, c => congrArg (run _ .part · c) h
  | record .., _, v, w, h, c => congrArg (run _ .part · c) h
  | valueOr .., _, v, w, h, c => congrArg (run _ .part · c) h
  | callable .., _, v, w, h, c => congrArg (run _ .part · c) h
  | value .., _, v, w, h, c => congrArg (run _ .part · c) h

/-- Fields that are alike are checked in the same way. -/
theorem runFields_of_alike : ∀ (fields : List (Value × Assertion)), FieldsOpen fields →
    ∀ (entries others : List (Value × Value)), FieldsAlike fields entries others →
      ∀ c : Context, runFields fields entries c = runFields fields others c
  | [], _, _, _, _, _ => rfl
  | (key, a) :: fields, hfields, entries, others, h, c => by
      rw [runFields, runFields, run_of_alike a hfields.2.1 _ _ h.1,
        runFields_of_alike fields hfields.2.2 entries others h.2 c]

end

end Runs

section Differences

variable {fields : List (Value × Assertion)} {entries others : List (Value × Value)} {v w : Value}

theorem alike_refl (a : Assertion) (v : Value) : a.Alike v v := by
  cases a with
  | schema form fields => exact Or.inl rfl
  | _ => exact rfl

theorem fieldsAlike_of_forall (h : ∀ field ∈ fields,
    field.2.Alike (Entries.get entries field.1) (Entries.get others field.1)) :
    FieldsAlike fields entries others := by
  induction fields with
  | nil => trivial
  | cons field fields ih =>
      rcases List.forall_mem_cons.mp h with ⟨hfield, hfields⟩
      exact ⟨hfield, ih hfields⟩

theorem fieldsAlike_of_get (h : ∀ field ∈ fields,
    Entries.get entries field.1 = Entries.get others field.1) :
    FieldsAlike fields entries others := by
  refine fieldsAlike_of_forall fun field hfield => ?_
  rw [h field hfield]
  exact alike_refl field.2 _

/-- What fields do not see leaves their values alike. -/
theorem fieldsAlike_of_overlooks (h : Overlooks fields v w) : ∃ entries others,
    v.mapping? = some entries ∧ w.mapping? = some others ∧ FieldsAlike fields entries others := by
  induction h with
  | kind hv hw => exact ⟨_, _, hv, hw, fieldsAlike_of_get fun _ _ => rfl⟩
  | order hv hw hperm hmapping hkeys =>
      refine ⟨_, _, hv, hw, fieldsAlike_of_get fun field hfield => ?_⟩
      rw [Entries.get, Entries.find?_of_perm hmapping hperm (hkeys field hfield)]
      rfl
  | further front back hv hw hother =>
      refine ⟨_, _, hv, hw, fieldsAlike_of_get fun field hfield => ?_⟩
      rw [Entries.get, Entries.find?_of_other (hother field hfield)]
      rfl
  | absent front back hv hw hmapping hkeys =>
      exact ⟨_, _, hv, hw, fieldsAlike_of_get fun field hfield =>
        Entries.get_of_undefined hmapping (hkeys field hfield)⟩
  | @deeper fields inner form v w key x y front back hv hw hfield _ ih =>
      refine ⟨_, _, hv, hw, fieldsAlike_of_forall fun field hmem => ?_⟩
      rcases ih with ⟨entries, others, hx, hy, halike⟩
      -- Only where the field finds this very entry does it see the difference.
      have hxy : (schema form inner).Alike x y := Or.inr ⟨entries, others, hx, hy, halike⟩
      simp only [Entries.get, Entries.find?_append, Entries.find?_cons]
      by_cases hsame : key.isSameKey field.1 = true
      · simp only [if_pos hsame]
        rcases Entries.find? front field.1 with _ | z
        · rw [hfield field hmem hsame]
          exact hxy
        · exact alike_refl field.2 z
      · simp only [if_neg hsame]
        exact alike_refl field.2 _

end Differences

variable {form : SchemaForm} {fields : List (Value × Assertion)} {rules : ObjectRules}

/-- An open schema without strict rules cannot tell values apart that are alike: the checks are one
    and the same computation, with the same end and the same calls under every error factory. In
    particular it does not tell apart what its fields overlook, at any depth. -/
theorem assertObject_of_alike (hopen : (schema form fields).IsOpen)
    (hrules : rules.isStrict = false) (c : Context) :
    (∀ v w, (schema form fields).Alike v w →
      assertObject (schema form fields) rules v c = assertObject (schema form fields) rules w c) ∧
    ∀ v w, Overlooks fields v w →
      assertObject (schema form fields) rules v c =
        assertObject (schema form fields) rules w c := by
  have halike : ∀ v w, (schema form fields).Alike v w →
      assertObject (schema form fields) rules v c =
        assertObject (schema form fields) rules w c := by
    rintro v w (rfl | ⟨entries, others, hv, hw, hfields⟩)
    · rfl
    · simp only [assertObject, run, runNames, hrules, Bool.false_eq_true, if_false,
        objectEntries_of_mapping hv, objectEntries_of_mapping hw, pure_bind]
      rw [runFields_of_alike fields hopen entries others hfields, runCrossField_of_open hopen v w]
  exact ⟨halike, fun v w h => halike v w (Or.inr (fieldsAlike_of_overlooks h))⟩

/-- A place has a town, and a function is told of it. -/
def placeFields : List (Value × Assertion) :=
  [(.text "town", callable (logged "town" fun v => Primitive.string.run v (.root none)))]

/-- A letter has an addressee and a place. -/
def letterFields : List (Value × Assertion) :=
  [(.text "to", callable (logged "to" fun _ => pure ())), (.text "at", schema .dict placeFields)]

/-- A letter to a town. -/
def letterTo (town : Value) : Value :=
  .dict (.given 0) [(.text "to", .text "ann"),
    (.text "at", .dict (.given 1) [(.text "town", town)])]

/-- The same letter in other mappings, in another order and with further entries. -/
def forwardedTo (town : Value) : Value :=
  .view (.given 2) [(.text "at", .view (.given 3) [(.text "zip", .int 7), (.text "town", town)]),
    (.text "from", .null), (.text "to", .text "ann")]

/-- The same letter with one more entry in its place. -/
def stampedTo (town : Value) : Value :=
  .dict (.given 0) [(.text "to", .text "ann"),
    (.text "at", .dict (.given 1) [(.text "town", town), (.text "zip", .int 7)])]

theorem letterFields_isOpen (form : SchemaForm) : (schema form letterFields).IsOpen := by
  have hother : ∀ name : String, name ≠ crossFieldKey → isCrossField (.text name) ≠ .ok true := by
    intro name hname
    rw [isCrossField_of_ne hname]
    simp only [ne_eq, Except.ok.injEq, Bool.false_eq_true, not_false_eq_true]
  exact ⟨hother "to" (by decide), trivial, hother "at" (by decide),
    ⟨hother "town" (by decide), trivial, trivial⟩, trivial⟩

theorem forwardedTo_alike (form : SchemaForm) (town : Value) :
    (schema form letterFields).Alike (letterTo town) (forwardedTo town) :=
  Or.inr ⟨_, _, rfl, rfl, rfl, Or.inr ⟨_, _, rfl, rfl, rfl, trivial⟩, trivial⟩

theorem overlooks_stampedTo (town : Value) :
    Overlooks letterFields (stampedTo town) (letterTo town) := by
  have hplace : Overlooks placeFields
      (.dict (.given 1) [(.text "town", town), (.text "zip", .int 7)])
      (.dict (.given 1) [(.text "town", town)]) :=
    .further [(.text "town", town)] [] rfl rfl (List.forall_mem_singleton.mpr rfl)
  have hfields : ∀ field ∈ letterFields, (Value.text "at").isSameKey field.1 = true →
      field.2 = schema .dict placeFields := by
    refine List.forall_mem_cons.mpr ⟨fun hsame => absurd hsame (by decide), ?_⟩
    exact List.forall_mem_singleton.mpr fun _ => rfl
  exact .deeper [(.text "to", .text "ann")] [] rfl rfl hfields hplace

theorem assertObject_of_alike_letter :
    (schema .dict letterFields).IsOpen ∧ ObjectRules.lenient.isStrict = false ∧
      (schema .dict letterFields).Alike (letterTo .null) (forwardedTo .null) ∧
      assertObject (schema .dict letterFields) .lenient (letterTo .null) (.root none) =
        assertObject (schema .dict letterFields) .lenient (forwardedTo .null) (.root none) ∧
      Overlooks letterFields (stampedTo .null) (letterTo .null) ∧
      assertObject (schema .dict letterFields) .lenient (stampedTo .null) (.root none) =
        assertObject (schema .dict letterFields) .lenient (letterTo .null) (.root none) := by
  have hlenient : ObjectRules.lenient.isStrict = false := rfl
  have hruns := assertObject_of_alike (letterFields_isOpen .dict) hlenient (.root none)
  exact ⟨letterFields_isOpen .dict, hlenient, forwardedTo_alike .dict .null,
    hruns.1 _ _ (forwardedTo_alike .dict .null), overlooks_stampedTo .null,
    hruns.2 _ _ (overlooks_stampedTo .null)⟩

end Assertion

end Attest
