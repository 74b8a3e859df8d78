import Attest.Assert
import Attest.Proofs.CallOrder
import Mathlib.Logic.Relation

/-!
# Reordering

What the order of entries decides, and what it does not.

A schema is a mapping, and a mapping is written down in some order. That order is the order of
its checks, so of two violations it decides which one is reported. It decides nothing else: a
schema whose entries are rearranged, at any depth, passes exactly what it passed before, and so
does a record whose entries are.

For the cross-field entry there is not even that much to decide. It is called after all fields,
wherever it is written, and what the loop over the fields asks of it is answered without a call.
Moving it leaves the run as it was, trace and message included.

Nothing is asked of the parts, which may be functions from outside. The one condition is that a
schema has a single entry that counts as the cross-field entry; a mapping, which has each key
once, meets it. As what is rearranged can be put back, it is enough to show that nothing that passed
fails afterwards.

## Main definitions

* `ClosesOnce`: At most one entry of a schema is the cross-field entry.
* `Reorders`: The entries of one schema in a tree are rearranged.

## Theorems

* `runParts_of_closing`: The cross-field entry is called last, wherever it stands.
* `runFields_passes_iff`, `runEntries_passes_iff`: Loops pass if each of their rounds does.
* `runCrossField_passes_iff`: The cross-field entry passes if what counts as it does.
* `Reorders.run_passes_iff`: A rearranged tree passes the same values.
* `run_reordered`: What the order of a schema and of a record does not decide.
-/

namespace Attest

namespace Check

/-- A sequence depends on its second part only where the first one ends with a value. -/
theorem bind_congr_of_result {α β : Type} {x : Check α} {f g : α → Check β}
    (h : ∀ factory a, (x factory).result = .ok a → f a factory = g a factory) :
    x >>= f = x >>= g := by
  funext factory
  rcases hx : x factory with ⟨trace, raised | a⟩
  · rw [bind_apply_error hx, bind_apply_error hx]
  · have hfg : f a factory = g a factory := h factory a (by rw [hx])
    rw [bind_apply_ok hx, bind_apply_ok hx, hfg]

end Check

namespace Assertion

/-- At most one entry of a schema is the cross-field entry. -/
def ClosesOnce (fields : List (Value × Assertion)) : Prop :=
  fields.Pairwise fun field other =>
    isCrossField field.1 = .ok true → isCrossField other.1 ≠ .ok true

theorem ClosesOnce.of_perm {fields others : List (Value × Assertion)} (hperm : fields.Perm others)
    (h : ClosesOnce fields) : ClosesOnce others :=
  (hperm.pairwise_iff fun hfield hother hfield' => hfield hfield' hother).mp h

/-- A schema whose keys are different texts has a single cross-field entry, if any. -/
theorem closesOnce_of_texts {fields : List (Value × Assertion)} {names : List String}
    (hnames : names.Nodup) (hkeys : fields.map (·.1) = names.map .text) : ClosesOnce fields := by
  have hcloses : ∀ s, isCrossField (.text s) = .ok true → s = crossFieldKey := fun s h =>
    by_contra fun hne => absurd ((isCrossField_of_ne hne).symm.trans h)
      (by simp only [Except.ok.injEq, Bool.false_eq_true, not_false_eq_true])
  have hpairs : (fields.map (·.1)).Pairwise fun key other =>
      isCrossField key = .ok true → isCrossField other ≠ .ok true := by
    rw [hkeys, List.pairwise_map]
    exact hnames.imp fun hne hs ht => hne ((hcloses _ hs).trans (hcloses _ ht).symm)
  exact List.pairwise_map.mp hpairs

variable {factory : ErrorFactory} {v : Value} {c : Context}

section Closing

variable {key : Value} {front back : List (Value × Assertion)}

/-- In the loop over the fields the cross-field entry makes no difference if it is a function. -/
theorem runFields_skip {a : Assertion} (hkey : isCrossField key = .ok true)
    (ha : a.isCallable = true) (entries : List (Value × Value)) (c : Context) :
    runFields (front ++ (key, a) :: back) entries c = runFields (front ++ back) entries c := by
  have hentry : runFields ((key, a) :: back) entries c = runFields back entries c := by
    simp only [runFields, hkey, ha, Check.ofExcept_ok, pure_bind, if_true]
  rw [runFields_append, runFields_append, hentry]

/-- Among entries that are not the cross-field entry, the cross-field entry is the one called. -/
theorem runCrossField_of_closing {a : Assertion} (hkey : isCrossField key = .ok true)
    (hothers : ∀ field ∈ front ++ back, isCrossField field.1 = .ok false) (v : Value)
    (c : Context) : runCrossField (front ++ (key, a) :: back) v c = a.run .direct v c := by
  induction front with
  | nil =>
      have hlast : (back.all fun field => (isCrossField field.1).toOption ≠ some true) = true := by
        refine List.all_eq_true.mpr fun field hmem => ?_
        rw [hothers field hmem]
        rfl
      simp only [List.nil_append, runCrossField, hkey, Check.ofExcept_ok, pure_bind, hlast,
        Bool.and_self, if_true]
  | cons field front ih =>
      rcases field with ⟨other, b⟩
      rcases List.forall_mem_cons.mp hothers with ⟨hother, hothers⟩
      rw [← ih hothers]
      exact runCrossField_skip hother b [] (front ++ (key, a) :: back) v c

/-- The parts of a schema are its fields in order and then the cross-field entry, wherever this
    one stands. -/
theorem runParts_of_closing {a : Assertion} (hkey : isCrossField key = .ok true)
    (ha : a.isCallable = true)
    (honly : ∀ field ∈ front ++ back, isCrossField field.1 ≠ .ok true)
    (entries : List (Value × Value)) (v : Value) (c : Context) :
    (runFields (front ++ (key, a) :: back) entries c >>= fun _ =>
        runCrossField (front ++ (key, a) :: back) v c) =
      (runFields (front ++ back) entries c >>= fun _ => a.run .direct v c) := by
  rw [runFields_skip hkey ha]
  -- Where the fields have passed, every key has said whether it is the cross-field entry.
  refine Check.bind_congr_of_result fun factory _ hpass => ?_
  have hothers : ∀ field ∈ front ++ back, isCrossField field.1 = .ok false := by
    intro field hmem
    rcases isCrossField_of_runFields hpass field hmem with ⟨found, hfound⟩
    cases found with
    | false => exact hfound
    | true => exact absurd hfound (honly field hmem)
  rw [runCrossField_of_closing hkey hothers]

/-- Whether a name is declared does not depend on where the entries of a schema stand. -/
theorem declares_of_perm (form : SchemaForm) {fields others : List (Value × Assertion)}
    (hperm : fields.Perm others) :
    (schema form fields).declares = (schema form others).declares := by
  funext name
  simp only [declares, hperm.any_eq]

/-- Moving the cross-field entry of a schema leaves every run of the schema as it was. -/
theorem run_schema_moved {a : Assertion} (hkey : isCrossField key = .ok true)
    (ha : a.isCallable = true)
    (honly : ∀ field ∈ front ++ back, isCrossField field.1 ≠ .ok true)
    {front' back' : List (Value × Assertion)} (hmove : front ++ back = front' ++ back')
    (form : SchemaForm) (position : Position) (v : Value) (c : Context) :
    (schema form (front ++ (key, a) :: back)).run position v c =
      (schema form (front' ++ (key, a) :: back')).run position v c := by
  simp only [run, runParts_of_closing hkey ha honly, runParts_of_closing hkey ha (hmove ▸ honly),
    hmove]

/-- Moving the cross-field entry of an object's schema leaves every run of the object as it was. -/
theorem run_object_moved {a : Assertion} (hkey : isCrossField key = .ok true)
    (ha : a.isCallable = true)
    (honly : ∀ field ∈ front ++ back, isCrossField field.1 ≠ .ok true)
    {front' back' : List (Value × Assertion)} (hmove : front ++ back = front' ++ back')
    (form : SchemaForm) (own : Option Provider) (rules : ObjectRules) (position : Position)
    (v : Value) (c : Context) :
    (object (schema form (front ++ (key, a) :: back)) own rules).run position v c =
      (object (schema form (front' ++ (key, a) :: back')) own rules).run position v c := by
  have hperm : (front ++ (key, a) :: back).Perm (front' ++ (key, a) :: back') :=
    List.perm_middle.trans (hmove ▸ List.perm_middle.symm)
  simp only [run, declares_of_perm form hperm, runParts_of_closing hkey ha honly,
    runParts_of_closing hkey ha (hmove ▸ honly), hmove]

end Closing

section Loops

/-- Fields pass if each of them does. -/
theorem runFields_passes_iff {fields : List (Value × Assertion)} {entries : List (Value × Value)} :
    (runFields fields entries c factory).result = .ok () ↔
      ∀ field ∈ fields, (runFields [field] entries c factory).result = .ok () := by
  induction fields with
  | nil => exact ⟨fun _ field hmem => absurd hmem List.not_mem_nil, fun _ => rfl⟩
  | cons field fields ih =>
      have hcons : field :: fields = [field] ++ fields := rfl
      rw [List.forall_mem_cons, ← ih, hcons, runFields_append, Check.andThen_passes_iff]

/-- Where each key has said whether it is the cross-field entry, and at most one is, the call of
    the cross-field entry passes if that one does. -/
theorem runCrossField_passes_iff {fields : List (Value × Assertion)} (hclosing : ClosesOnce fields)
    (hanswers : ∀ field ∈ fields, ∃ found, isCrossField field.1 = .ok found) :
    (runCrossField fields v c factory).result = .ok () ↔
      ∀ field ∈ fields, isCrossField field.1 = .ok true →
        (field.2.run .direct v c factory).result = .ok () := by
  have hfalse : ∀ field ∈ fields, isCrossField field.1 ≠ .ok true →
      isCrossField field.1 = .ok false := by
    intro field hmem hne
    rcases hanswers field hmem with ⟨_ | _, hfound⟩
    · exact hfound
    · exact absurd hfound hne
  by_cases h : ∃ field ∈ fields, isCrossField field.1 = .ok true
  · rcases h with ⟨⟨key, a⟩, hmem, hkey⟩
    rcases List.append_of_mem hmem with ⟨front, back, rfl⟩
    have hmiddle := List.pairwise_cons.mp (hclosing.of_perm List.perm_middle)
    have hothers : ∀ field ∈ front ++ back, isCrossField field.1 ≠ .ok true :=
      fun field hfield => hmiddle.1 field hfield hkey
    have hrun := runCrossField_of_closing (a := a) hkey (fun field hfield =>
      hfalse field (List.perm_middle.mem_iff.mpr (List.mem_cons_of_mem _ hfield))
        (hothers field hfield)) v c
    rw [hrun]
    constructor
    · intro hpass field hfield hfound
      rcases List.mem_cons.mp (List.perm_middle.mem_iff.mp hfield) with rfl | hfield
      · exact hpass
      · exact absurd hfound (hothers field hfield)
    · exact fun hall => hall (key, a) hmem hkey
  · have hothers : ∀ field ∈ fields, isCrossField field.1 ≠ .ok true :=
      fun field hmem hkey => h ⟨field, hmem, hkey⟩
    rw [runCrossField_of_absent fun field hmem => hfalse field hmem (hothers field hmem)]
    exact iff_of_true rfl fun field hmem hkey => absurd hkey (hothers field hmem)

/-- Entries pass if each of them does: its key, its item and the field that repeats the key. -/
theorem runEntries_passes_iff {checkKey : Option (Value → Context → Check Unit)}
    {check : Value → Context → Check Unit} {keyField : Option String}
    {entries : List (Value × Value)} :
    (runEntries checkKey check keyField c entries factory).result = .ok () ↔
      ∀ entry ∈ entries,
        (runEntries checkKey check keyField c [entry] factory).result = .ok () := by
  induction entries with
  | nil => exact ⟨fun _ entry hmem => absurd hmem List.not_mem_nil, fun _ => rfl⟩
  | cons entry entries ih =>
      rcases entry with ⟨key, item⟩
      rw [List.forall_mem_cons, ← ih, runEntries_cons, runEntries_cons]
      simp only [Check.andThen_passes_iff, runEntries, Check.pure_apply, and_true, and_assoc]

end Loops

/-- The entries of one schema in a tree are rearranged: of the tree itself or of a part, wherever
    a schema may stand. -/
inductive Reorders : Assertion → Assertion → Prop
  /-- The entries of the tree itself. -/
  | entries (form : SchemaForm) {fields others : List (Value × Assertion)}
      (hclosing : ClosesOnce fields) (hperm : fields.Perm others) :
      Reorders (schema form fields) (schema form others)
  /-- Below an entry of a schema. -/
  | field (form : SchemaForm) (front back : List (Value × Assertion)) (key : Value)
      {a b : Assertion} (h : Reorders a b) :
      Reorders (schema form (front ++ (key, a) :: back)) (schema form (front ++ (key, b) :: back))
  /-- The schema of an object, or below it. -/
  | inner (own : Option Provider) (rules : ObjectRules) {a b : Assertion} (h : Reorders a b) :
      Reorders (object a own rules) (object b own rules)
  /-- At the elements of an array. -/
  | element (rules : ArrayRules) {a b : Assertion} (h : Reorders a b) :
      Reorders (array a rules) (array b rules)
  /-- At the items of a record. -/
  | item (key : Option Assertion) (keyField : Option String) (crossField : Option Assertion)
      {a b : Assertion} (h : Reorders a b) :
      Reorders (record a key keyField crossField) (record b key keyField crossField)
  /-- At the keys of a record. -/
  | key (item : Assertion) (keyField : Option String) (crossField : Option Assertion)
      {a b : Assertion} (h : Reorders a b) :
      Reorders (record item (some a) keyField crossField) (record item (some b) keyField crossField)
  /-- At the check of a whole record. -/
  | whole (item : Assertion) (key : Option Assertion) (keyField : Option String)
      {a b : Assertion} (h : Reorders a b) :
      Reorders (record item key keyField (some a)) (record item key keyField (some b))
  /-- Behind an accepted value. -/
  | fallback (expected : Value) {a b : Assertion} (h : Reorders a b) :
      Reorders (valueOr expected a) (valueOr expected b)

section Reordering

variable {a b : Assertion}

/-- What is rearranged can be put back. -/
theorem Reorders.symm (h : Reorders a b) : Reorders b a := by
  induction h with
  | entries form hclosing hperm => exact .entries form (hclosing.of_perm hperm) hperm.symm
  | field form front back key _ ih => exact .field form front back key ih
  | inner own rules _ ih => exact .inner own rules ih
  | element rules _ ih => exact .element rules ih
  | item key keyField crossField _ ih => exact .item key keyField crossField ih
  | key item keyField crossField _ ih => exact .key item keyField crossField ih
  | whole item key keyField _ ih => exact .whole item key keyField ih
  | fallback expected _ ih => exact .fallback expected ih

theorem Reorders.isCallable_eq (h : Reorders a b) : a.isCallable = b.isCallable := by
  cases h <;> rfl

/-- A schema stays a schema of the same names. -/
theorem Reorders.of_schema {form : SchemaForm} {fields : List (Value × Assertion)}
    (h : Reorders (schema form fields) b) :
    ∃ others, b = schema form others ∧ (fields.map (·.1)).Perm (others.map (·.1)) := by
  cases h with
  | entries _ _ hperm => exact ⟨_, rfl, hperm.map _⟩
  | field _ front back key h =>
      refine ⟨_, rfl, ?_⟩
      rw [List.map_append, List.map_append, List.map_cons, List.map_cons]

/-- Names that keep the rules of an object still do if the schema declares no fewer. -/
theorem namesKept_of_names {fields others : List (Value × Assertion)} {rules : ObjectRules}
    {entries : List (Value × Value)}
    (hnames : ∀ name ∈ fields.map (·.1), name ∈ others.map (·.1))
    (h : NamesKept fields rules entries) : NamesKept others rules entries := by
  intro hstrict entry hmem
  refine (h hstrict entry hmem).imp_left ?_
  rintro ⟨field, hfield, hsame⟩
  rcases List.mem_map.mp (hnames field.1 (List.mem_map_of_mem hfield)) with ⟨other, hother, hkey⟩
  exact ⟨other, hother, hkey ▸ hsame⟩

/-- The same checks pass a schema in a different order. -/
theorem run_schema_perm_passes {form : SchemaForm} {fields others : List (Value × Assertion)}
    (hclosing : ClosesOnce fields) (hperm : fields.Perm others) {position : Position}
    (h : ((schema form fields).run position v c factory).result = .ok ()) :
    ((schema form others).run position v c factory).result = .ok () := by
  rw [run_schema_passes_iff] at h ⊢
  rcases h with ⟨hposition, entries, hv, hfields, hcross⟩
  have hfields' : (runFields others entries c factory).result = .ok () :=
    runFields_passes_iff.mpr fun field hmem =>
      runFields_passes_iff.mp hfields field (hperm.mem_iff.mpr hmem)
  refine ⟨hposition, entries, hv, hfields', ?_⟩
  rw [runCrossField_passes_iff hclosing (isCrossField_of_runFields hfields)] at hcross
  rw [runCrossField_passes_iff (hclosing.of_perm hperm) (isCrossField_of_runFields hfields')]
  exact fun field hmem => hcross field (hperm.mem_iff.mpr hmem)

/-- An entry of a schema may be exchanged for one that passes wherever it does. -/
theorem run_schema_exchange {form : SchemaForm} {front back : List (Value × Assertion)}
    {key : Value} (hcallable : a.isCallable = b.isCallable)
    (hab : ∀ (position : Position) v c, (a.run position v c factory).result = .ok () →
      (b.run position v c factory).result = .ok ()) {position : Position}
    (h : ((schema form (front ++ (key, a) :: back)).run position v c factory).result = .ok ()) :
    ((schema form (front ++ (key, b) :: back)).run position v c factory).result = .ok () := by
  rw [run_schema_passes_iff] at h ⊢
  rcases h with ⟨hposition, entries, hv, hfields, hcross⟩
  rw [runFields_split, runField_passes_iff] at hfields
  refine ⟨hposition, entries, hv, ?_,
    runCrossField_exchange (fun _ => hab .direct v c) front hcross⟩
  rw [runFields_split, runField_passes_iff, ← hcallable]
  exact ⟨hfields.1, hfields.2.1.imp_left fun h => ⟨h.1, hab _ _ _ h.2⟩, hfields.2.2⟩

/-- What passes a tree passes it rearranged. -/
theorem Reorders.run_passes (h : Reorders a b) {position : Position}
    (hpass : (a.run position v c factory).result = .ok ()) :
    (b.run position v c factory).result = .ok () := by
  induction h generalizing position v c with
  | entries form hclosing hperm => exact run_schema_perm_passes hclosing hperm hpass
  | field form front back key h ih =>
      exact run_schema_exchange h.isCallable_eq (fun _ _ _ => ih) hpass
  | inner own rules h ih =>
      rcases schema_of_run_object_passes hpass with ⟨form, fields, rfl⟩
      rcases h.of_schema with ⟨others, rfl, hperm⟩
      rw [run_object_passes_iff] at hpass ⊢
      rcases hpass with ⟨entries, hv, hrules, hnames, hschema⟩
      exact ⟨entries, hv, hrules, namesKept_of_names (fun _ => hperm.mem_iff.mp) hnames, ih hschema⟩
  | element rules h ih =>
      rw [run_array_passes_iff] at hpass ⊢
      rcases hpass with ⟨items, hitems, helements⟩
      exact ⟨items, hitems, runElements_mono (fun _ _ _ => ih) 0 helements⟩
  | item key keyField crossField h ih =>
      rw [run_record_passes_iff] at hpass ⊢
      rcases hpass with ⟨entries, hv, hentries, hcross⟩
      exact ⟨entries, hv, runEntries_mono (fun _ _ _ => id) (fun _ _ _ => ih) (.inl rfl) hentries,
        hcross⟩
  | key item keyField crossField h ih =>
      rw [run_record_passes_iff] at hpass ⊢
      rcases hpass with ⟨entries, hv, hentries, hcross⟩
      refine ⟨entries, hv, runEntries_mono (fun entry _ c => ?_) (fun _ _ _ => id) (.inl rfl)
        hentries, hcross⟩
      simpa only [runIfPresent_some] using ih
  | whole item key keyField h ih =>
      rw [run_record_passes_iff, runIfPresent_some] at hpass ⊢
      rcases hpass with ⟨entries, hv, hentries, hwhole⟩
      exact ⟨entries, hv, hentries, ih hwhole⟩
  | fallback expected h ih =>
      rw [run_valueOr_passes_iff] at hpass ⊢
      exact hpass.imp_right ih

/-- A rearranged tree passes the same values, in every position and at every place. -/
theorem Reorders.run_passes_iff (h : Reorders a b) (position : Position) (v : Value)
    (c : Context) :
    (a.run position v c factory).result = .ok () ↔
      (b.run position v c factory).result = .ok () :=
  ⟨h.run_passes, h.symm.run_passes⟩

end Reordering

/-- A record with its entries in a different order passes under the same checks, if it is not
    checked as a whole. -/
theorem assertRecord_perm_passes_iff (item : Assertion) {rules : RecordRules}
    (hrules : rules.crossField = none) {w : Value} {entries others : List (Value × Value)}
    (hv : v.mapping? = some entries) (hw : w.mapping? = some others) (hperm : entries.Perm others) :
    (assertRecord item rules v c factory).result = .ok () ↔
      (assertRecord item rules w c factory).result = .ok () := by
  simp only [assertRecord, recordOf, run_record_passes_iff, hv, hw, Option.some.injEq,
    exists_eq_left', hrules, runIfAny, runIfPresent, Check.pure_apply, and_true]
  rw [runEntries_passes_iff, runEntries_passes_iff]
  exact forall_congr' fun entry => by rw [hperm.mem_iff]

/-- The order of entries decides only which violation is reported. The cross-field entry of a
    schema, which is a function, may be written anywhere: the check of an object, under any rules
    and at any place, is the same computation. A tree whose schemas are rearranged, at any depth
    and any number of times, passes the same values. And so do records whose entries are in
    different orders, unless they are checked as a whole. -/
theorem run_reordered (factory : ErrorFactory) :
    (∀ (form : SchemaForm) (front back front' back' : List (Value × Assertion)) (key : Value)
      (a : Assertion), isCrossField key = .ok true → a.isCallable = true →
      (∀ field ∈ front ++ back, isCrossField field.1 ≠ .ok true) →
      front ++ back = front' ++ back' →
      (∀ (rules : ObjectRules) (v : Value) (c : Context),
        assertObject (schema form (front ++ (key, a) :: back)) rules v c =
          assertObject (schema form (front' ++ (key, a) :: back')) rules v c) ∧
      ∀ (position : Position) (v : Value) (c : Context),
        (schema form (front ++ (key, a) :: back)).run position v c =
          (schema form (front' ++ (key, a) :: back')).run position v c) ∧
    (∀ a b : Assertion, Relation.ReflTransGen Reorders a b →
      ∀ (position : Position) (v : Value) (c : Context),
        (a.run position v c factory).result = .ok () ↔
          (b.run position v c factory).result = .ok ()) ∧
    ∀ (item : Assertion) (rules : RecordRules), rules.crossField = none →
      ∀ (v w : Value) (entries others : List (Value × Value)), v.mapping? = some entries →
        w.mapping? = some others → entries.Perm others → ∀ c : Context,
        (assertRecord item rules v c factory).result = .ok () ↔
          (assertRecord item rules w c factory).result = .ok () := by
  refine ⟨fun form front back front' back' key a hkey ha honly hmove => ⟨?_, ?_⟩,
    fun a b h position v c => ?_, fun item rules hrules v w entries others hv hw hperm c =>
      assertRecord_perm_passes_iff item hrules hv hw hperm⟩
  · exact fun rules v c => run_object_moved hkey ha honly hmove form none rules .direct v c
  · exact fun position v c => run_schema_moved hkey ha honly hmove form position v c
  · induction h with
    | refl => exact Iff.rfl
    | tail _ hlast ih => exact ih.trans (hlast.run_passes_iff position v c)

/-- A parcel goes to a place, which has a town and a code. -/
def parcelFields : List (Value × Assertion) :=
  [(.text "to", schema .dict [(.text "town", primitive .string), (.text "zip", primitive .number)]),
    (.text "note", primitive .string)]

/-- The fields of a parcel, rearranged at both depths. -/
def turnedFields : List (Value × Assertion) :=
  [(.text "note", primitive .string),
    (.text "to",
      schema .dict [(.text "zip", primitive .number), (.text "town", primitive .string)])]

/-- A parcel is closed by a function that leaves a call in the trace. -/
def parcelEntry : Value × Assertion :=
  (.text crossFieldKey, callable (logged "parcel" fun _ => pure ()))

/-- The entries of a parcel. -/
def parcelEntries (town note : Value) : List (Value × Value) :=
  [(.text "note", note),
    (.text "to", .dict (.given 1) [(.text "town", town), (.text "zip", .int 7)])]

theorem parcel_reorders :
    Relation.ReflTransGen Reorders (schema .dict (parcelFields ++ [parcelEntry]))
      (schema .dict ([parcelEntry] ++ turnedFields)) := by
  have hplace : Reorders (schema .dict (parcelFields ++ [parcelEntry]))
      (schema .dict ([] ++ (.text "to", schema .dict [(.text "zip", primitive .number),
        (.text "town", primitive .string)]) :: [(.text "note", primitive .string), parcelEntry])) :=
    .field .dict [] _ _ (.entries .dict
      (closesOnce_of_texts (by decide : ["town", "zip"].Nodup) rfl) (.swap _ _ _))
  refine .head hplace (.single (.entries .dict
    (closesOnce_of_texts (by decide : ["to", "note", crossFieldKey].Nodup) rfl) ?_))
  exact ((List.Perm.swap _ _ []).append_right [parcelEntry]).trans
    (List.perm_append_singleton parcelEntry turnedFields)

theorem run_reordered_parcel :
    isCrossField parcelEntry.1 = .ok true ∧ parcelEntry.2.isCallable = true ∧
      assertObject (schema .dict (parcelFields ++ [parcelEntry])) ⟨true, .tuple .converted []⟩
          (.dict (.given 0) (parcelEntries (.text "ulm") .null)) (.root none) =
        assertObject (schema .dict ([] ++ parcelEntry :: parcelFields)) ⟨true, .tuple .converted []⟩
          (.dict (.given 0) (parcelEntries (.text "ulm") .null)) (.root none) ∧
      (((schema .dict (parcelFields ++ [parcelEntry])).run .part
          (.dict (.given 0) (parcelEntries .null (.text "soon"))) (.root none) .standard).result =
          .ok () ↔
        ((schema .dict ([parcelEntry] ++ turnedFields)).run .part
          (.dict (.given 0) (parcelEntries .null (.text "soon"))) (.root none) .standard).result =
          .ok ()) ∧
      ((assertRecord (primitive .string) ⟨some (primitive .string), none, none⟩
          (.dict (.given 0) [(.text "x", .text "y"), (.int 3, .null)]) (.root none)
          .standard).result = .ok () ↔
        (assertRecord (primitive .string) ⟨some (primitive .string), none, none⟩
          (.dict (.given 0) [(.int 3, .null), (.text "x", .text "y")]) (.root none)
          .standard).result = .ok ()) := by
  have hreordered := run_reordered .standard
  have hkey : isCrossField parcelEntry.1 = .ok true := rfl
  have honly : ∀ field ∈ parcelFields ++ [], isCrossField field.1 ≠ .ok true := by
    intro field hmem
    simp only [parcelFields, List.append_nil, List.mem_cons, List.not_mem_nil, or_false] at hmem
    rcases hmem with rfl | rfl
    · simp [isCrossField_of_ne (show "to" ≠ crossFieldKey by decide)]
    · simp [isCrossField_of_ne (show "note" ≠ crossFieldKey by decide)]
  refine ⟨hkey, rfl, ?_, ?_, ?_⟩
  · exact (hreordered.1 .dict parcelFields [] [] parcelFields _ _ hkey rfl honly
      (List.append_nil _)).1 _ _ _
  · exact hreordered.2.1 _ _ parcel_reorders .part _ _
  · exact hreordered.2.2 _ _ rfl _ _ _ _ rfl rfl (.swap _ _ _) _

/-- Of two violations the order decides which one is reported. -/
example : ((schema .dict (parcelFields ++ [parcelEntry])).run .part
    (.dict (.given 0) (parcelEntries .null .null)) (.root none) .standard).result =
      .error (.built .schemaError [.text ".to.town: Not a string <null>"]) ∧
    ((schema .dict ([parcelEntry] ++ turnedFields)).run .part
      (.dict (.given 0) (parcelEntries .null .null)) (.root none) .standard).result =
        .error (.built .schemaError [.text ".note: Not a string <null>"]) :=
  ⟨rfl, rfl⟩

end Assertion

end Attest
