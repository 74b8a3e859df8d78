import Attest.Proofs.Acceptance
import Attest.Proofs.Passing
import Attest.Proofs.StrictEquality
import Attest.Proofs.Tables

/-!
# Primary Keys

A record whose items repeat their keys in a field is the mapping that the items make by themselves.

Two equalities meet here. The check of a record compares the field with the key strictly. A mapping
holds its keys apart by the equality of keys. The two are not the same: a boolean is the same key as
a number and never strictly equal to it, and two strictly equal classes that are told what they hold
need not both be keys. What is used of them is that strict equality is finer, so a field that
repeats a key is another spelling of it, and that it is symmetric and transitive, so fields that
were equal would make their keys equal. Then the fields are as different as the keys are, and items
that are written down under them stay where they are.

The stage of the check that looks at the field is a check of each entry on its own. Where all items
repeat their keys, it leaves nothing behind, and what is left is the check of a record without it.

## Main definitions

* `Value.ownKey`: What an item has in a field.
* `Entries.rekeyed`: Items under what they have in a field.
* `Value.IsRecordIn`: A value holds what a heap says, under keys that are keys.

## Theorems

* `hashable_of_strictEq`: What is strictly equal to a key is a key.
* `isSameKey_of_strictEq`: What is strictly equal to a key, and may be one, is the same key.
* `runKeyField_passes_iff`, `runKeyField_of_repeats`: The check of one entry.
* `runEntries_keyField_iff`, `runEntries_of_repeats`: The check of all entries.
* `rekeyed_eq`: Items that repeat their keys are kept in place under their fields.
* `ownKeys_differ`: Items under different keys have different fields.
* `keyField_isPrimaryKey`: A field that has to repeat the key identifies the items.
* `tagged_not_rekeyed`: What repeats a key may be no key itself.
-/

namespace Attest

namespace Value

/-- What an item has in a field. A field that is missing has the value that does not exist. -/
def ownKey (field : String) (item : Value) : Value :=
  Entries.get (item.mapping?.getD []) field

/-- A value holds what a heap says, and if it stores items, then under what may be a key. -/
structure IsRecordIn (heap : Heap) (v : Value) : Prop where
  /-- The value lives in the heap. -/
  lives : v.LivesIn heap
  /-- So do the keys, and they may be keys. -/
  keys : ∀ entries, v.mapping? = some entries → ∀ entry ∈ entries,
    entry.1.LivesIn heap ∧ entry.1.hashable = .ok ()

variable {heap : Heap} {a b : Value}

theorem isSettled_of_livesIn (h : a.LivesIn heap) : a.IsSettled heap := by
  cases a with
  | frozenSet | applied | object => exact h
  | _ => trivial

mutual

/-- What may be a key holds nothing for which an order counts, as such a mapping is no key. -/
theorem isOrderFree_of_hashable : ∀ a : Value, a.hashable = .ok () → a.IsOrderFree
  | tuple _ xs, h | applied _ xs, h => allOrderFree_of_allHashable xs h
  | list .., h | dict .., h | view .., h | ordered .., h =>
      absurd h (by simp only [hashable, reduceCtorEq, not_false_eq_true])
  | undefined, _ | null, _ | bool _, _ | int _, _ | float .., _ | fraction _, _ | decimal .., _
  | text _, _ | bytes _, _ | dateTime _, _ | timestamp _, _ | date _, _ | set .., _
  | frozenSet .., _ | function .., _ | callable .., _ | builtin _, _ | object .., _
  | exception .., _ => trivial

theorem allOrderFree_of_allHashable : ∀ xs : List Value, allHashable xs = .ok () → AllOrderFree xs
  | [], _ => trivial
  | x :: xs, h => by
      rcases except_bind_ok_iff.mp h with ⟨_, hx, hxs⟩
      exact ⟨isOrderFree_of_hashable x hx, allOrderFree_of_allHashable xs hxs⟩

end

theorem toldNoOrder_of_hashable (h : a.hashable = .ok ()) : a.ToldNoOrder := by
  cases a with
  | applied => exact isOrderFree_of_hashable _ h
  | _ => trivial

/-- What is strictly equal is loosely equal. -/
theorem looselyEq_of_strictEq (ha : a.LivesIn heap) (hb : b.LivesIn heap)
    (h : a.strictEq b = true) : a.LooselyEq b := by
  rcases (strictEq_iff (isUniversal_of_livesIn ha) (isUniversal_of_livesIn hb)).mp h with
    hsame | ⟨_, _, _, hloosely⟩
  · exact looselyEq_iff.mpr (Or.inl hsame)
  · exact hloosely

/-- What is strictly equal to a key is a key. Only a class that is told what it holds may be told
    something that is no key, where the other was told something equal that is. -/
theorem hashable_of_strictEq (ha : a.LivesIn heap) (hb : b.LivesIn heap) (h : a.strictEq b = true)
    (hkey : b.hashable = .ok ()) (happlied : ∀ c items, a ≠ applied c items) :
    a.hashable = .ok () := by
  have hkindless : a.kind? = none → a.isSame b = true := fun hk =>
    (strictEq_kindless_iff hk (isUniversal_of_livesIn ha) (isUniversal_of_livesIn hb)).mp h
  cases a with
  | applied c items => exact absurd rfl (happlied c items)
  | list | dict | view | ordered | set =>
      -- Containers that can be changed equal themselves alone, and these are no keys.
      have hsame := hkindless rfl
      cases b with
      | list | dict | view | ordered | set =>
          exact absurd hkey (by simp only [hashable, reduceCtorEq, not_false_eq_true])
      | _ => exact absurd hsame Bool.false_ne_true
  | tuple i xs =>
      have hsame := hkindless rfl
      cases b with
      | tuple j ys =>
          cases xs with
          | nil => rfl
          | cons x xs =>
              cases ys with
              | nil => exact absurd hsame (by simp [isSame])
              | cons y ys =>
                  -- One object holds the same items in both.
                  have hij : i = j := of_decide_eq_true hsame
                  have hitems : x :: xs = y :: ys := by
                    rw [← ha.1 (List.cons_ne_nil x xs), ← hb.1 (List.cons_ne_nil y ys), hij]
                  rw [hitems]
                  exact hkey
      | _ => exact absurd hsame (by simp [isSame])
  | decimal i d =>
      have hloosely := looselyEq_of_strictEq ha hb h
      rw [looselyEq_plain_iff rfl rfl (isUniversal_of_livesIn hb),
        isSameKey_numeric_iff rfl] at hloosely
      rcases hloosely with hsame | hworth
      · cases b with
        | decimal j e =>
            rw [isSame, Bool.and_eq_true, decide_eq_true_eq, decide_eq_true_eq] at hsame
            rw [hsame.2]
            exact hkey
        | _ => exact absurd hsame Bool.false_ne_true
      · rcases (sameWorth_iff _ _).mp hworth with ⟨m, n, hm, _, hagrees⟩
        have hquiet : d.isSignalling = false := not_isSignalling_of_agrees hm hagrees
        simp only [hashable, hquiet, Bool.false_eq_true, if_false]
  | _ => rfl

/-- What is strictly equal to a key, and may be one, is the same key. -/
theorem isSameKey_of_strictEq (ha : a.LivesIn heap) (hb : b.LivesIn heap)
    (haKey : a.hashable = .ok ()) (hbKey : b.hashable = .ok ()) (h : a.strictEq b = true) :
    a.isSameKey b = true :=
  (looselyEq_iff_isSameKey a ha haKey b hb hbKey).mp (looselyEq_of_strictEq ha hb h)

theorem ownKey_livesIn (h : a.LivesIn heap) (field : String) : (a.ownKey field).LivesIn heap := by
  unfold ownKey Entries.get
  rcases ha : a.mapping? with _ | entries
  · trivial
  · rcases hfind : Entries.find? entries field with _ | x
    · simp only [Option.getD_some, hfind, Option.getD_none]
      trivial
    · rcases Option.map_eq_some_iff.mp hfind with ⟨entry, hentry, rfl⟩
      simp only [Option.getD_some, hfind]
      exact livesIn_of_entry (livesIn_of_mapping ha h).2 entry (List.mem_of_find?_eq_some hentry)

end Value

namespace Entries

/-- Items under what they have in a field, as far as this may be a key. -/
def rekeyed (field : String) (items : List Value) : Except Fault (List (Value × Value)) := do
  Value.allHashable (items.map (Value.ownKey field))
  return ofList (items.map fun item => (item.ownKey field, item))

end Entries

namespace Assertion

variable {field : String} {factory : ErrorFactory}

theorem repeatsKey_iff {key item : Value} : RepeatsKey (some field) key item ↔
    item.mapping?.isSome = true ∧ (item.ownKey field).strictEq key = true := by
  unfold RepeatsKey Value.ownKey
  rcases item.mapping? with _ | entries
  · simp
  · simp

section Stage

variable (hne : field ≠ "")

include hne

theorem runKeyField_passes_iff {key item : Value} {c : Context} :
    (runKeyField (some field) key item c factory).result = .ok () ↔
      RepeatsKey (some field) key item :=
  (runKeyField_decides (H := False) (W := False) nofun (fun h => hne (Option.some.inj h)) key
    nofun).passes_iff

/-- The check of an item that repeats its key leaves nothing behind. -/
theorem runKeyField_of_repeats {key item : Value} (h : RepeatsKey (some field) key item)
    (c : Context) : runKeyField (some field) key item c = pure () := by
  rcases h field rfl with ⟨entries, hentries, hsame⟩
  unfold runKeyField
  split
  · next hnone => exact absurd hnone (by simp only [reduceCtorEq, not_false_eq_true])
  · next hempty => exact absurd (Option.some.inj hempty) hne
  · next other _ hother =>
      rw [← Option.some.inj hother, hentries]
      simp only [hsame, if_true]

theorem runEntries_keyField_iff {checkKey : Option (Value → Context → Check Unit)}
    {checkItem : Value → Context → Check Unit} {c : Context} {entries : List (Value × Value)} :
    (runEntries checkKey checkItem (some field) c entries factory).result = .ok () ↔
      (runEntries checkKey checkItem none c entries factory).result = .ok () ∧
        ∀ entry ∈ entries, RepeatsKey (some field) entry.1 entry.2 := by
  induction entries with
  | nil => exact ⟨fun _ => ⟨rfl, fun entry hmem => absurd hmem List.not_mem_nil⟩, fun _ => rfl⟩
  | cons entry entries ih =>
      rcases entry with ⟨key, item⟩
      have hnone : runKeyField none key item (.entry c key) = pure () := rfl
      simp only [runEntries_cons, Check.andThen_passes_iff, runKeyField_passes_iff hne, ih, hnone,
        pure_bind, List.forall_mem_cons]
      exact ⟨fun ⟨hkey, hitem, hrepeats, hrest, hall⟩ => ⟨⟨hkey, hitem, hrest⟩, hrepeats, hall⟩,
        fun ⟨⟨hkey, hitem, hrest⟩, hrepeats, hall⟩ => ⟨hkey, hitem, hrepeats, hrest, hall⟩⟩

/-- Where all items repeat their keys, entries are checked as if nothing asked them to. -/
theorem runEntries_of_repeats (checkKey : Option (Value → Context → Check Unit))
    (checkItem : Value → Context → Check Unit) (c : Context) {entries : List (Value × Value)}
    (h : ∀ entry ∈ entries, RepeatsKey (some field) entry.1 entry.2) :
    runEntries checkKey checkItem (some field) c entries =
      runEntries checkKey checkItem none c entries := by
  induction entries with
  | nil => rfl
  | cons entry entries ih =>
      rcases entry with ⟨key, item⟩
      rcases List.forall_mem_cons.mp h with ⟨hhere, hrest⟩
      have hnone : runKeyField none key item (.entry c key) = pure () := rfl
      simp only [runEntries_cons, runKeyField_of_repeats hne hhere, ih hrest, hnone]

end Stage

section Record

variable {rules : RecordRules} (hfield : rules.keyField = some field) (hne : field ≠ "")
  {v : Value} {entries : List (Value × Value)} (item : Assertion) (c : Context)

include hfield hne

/-- A record passes if it does without the field, and its items repeat their keys in the field. -/
theorem assertRecord_keyField_iff :
    (assertRecord item rules v c factory).result = .ok () ↔
      (assertRecord item { rules with keyField := none } v c factory).result = .ok () ∧
        ∃ entries, v.mapping? = some entries ∧
          ∀ entry ∈ entries, RepeatsKey (some field) entry.1 entry.2 := by
  unfold assertRecord recordOf
  simp only [run_record_passes_iff, hfield, runEntries_keyField_iff hne]
  constructor
  · rintro ⟨entries, hentries, ⟨hpass, hrepeats⟩, hcross⟩
    exact ⟨⟨entries, hentries, hpass, hcross⟩, entries, hentries, hrepeats⟩
  · rintro ⟨⟨entries, hentries, hpass, hcross⟩, others, hothers, hrepeats⟩
    rw [hentries, Option.some.injEq] at hothers
    exact ⟨entries, hentries, ⟨hpass, hothers ▸ hrepeats⟩, hcross⟩

theorem assertRecord_of_repeats (hentries : v.mapping? = some entries)
    (h : ∀ entry ∈ entries, RepeatsKey (some field) entry.1 entry.2) :
    assertRecord item rules v c = assertRecord item { rules with keyField := none } v c := by
  have hsame := runEntries_of_repeats hne (runIfAny rules.key .part) (item.run .part) c h
  unfold assertRecord recordOf run
  rw [recordEntries_of_mapping hentries, pure_bind, pure_bind, hfield, hsame]

end Record

end Assertion

section Spellings

variable {heap : Heap} {field : String} {v : Value} {entries others : List (Value × Value)}

/-- Mappings that store the same items under the same keys are equal, however the keys are
    spelled. -/
theorem Value.looselyEq_of_respelled {w : Value} (hv : v.mapping? = some entries)
    (hw : w.mapping? = some others) (huniversal : w.isUniversal = false)
    (hunordered : v.isOrdered = false ∨ w.isOrdered = false)
    (hkept : ∀ entry ∈ entries, entry.1.KeepsTo heap.items)
    (hothers : Entries.IsMapping heap.items others) (hlength : entries.length = others.length)
    (h : ∀ entry ∈ entries, ∃ other ∈ others,
      entry.1.isSameKey other.1 = true ∧ entry.2 = other.2) : v.LooselyEq w := by
  refine (Value.looselyEq_mapping_iff hv huniversal).mpr
    ⟨others, hw, Or.inr ⟨⟨hlength, fun entry hmem => ?_⟩, fun hvOrdered hwOrdered => ?_⟩⟩
  · rcases h entry hmem with ⟨other, hother, hsame, hitem⟩
    refine ⟨other.2, Entries.find?_of_isSameKey hothers (hkept entry hmem) hother hsame, ?_⟩
    rw [hitem]
    exact Value.looselyEq_self other.2
  · rw [hvOrdered, hwOrdered] at hunordered
    exact absurd hunordered (by simp only [Bool.true_eq_false, or_self, not_false_eq_true])

variable (hv : v.IsRecordIn heap) (hentries : v.mapping? = some entries)
  (hrepeats : ∀ entry ∈ entries, Assertion.RepeatsKey (some field) entry.1 entry.2)

include hv hentries

theorem ownKey_livesIn_of_mem {entry : Value × Value} (hmem : entry ∈ entries) :
    (entry.2.ownKey field).LivesIn heap :=
  Value.ownKey_livesIn
    (Value.livesIn_of_entry (Value.livesIn_of_mapping hentries hv.lives).2 entry hmem) field

include hrepeats

/-- Items under different keys have different fields, since fields that were equal would make the
    keys equal. -/
theorem ownKeys_differ : entries.Pairwise fun entry later =>
    (entry.2.ownKey field).strictEq (later.2.ownKey field) = false := by
  have hdistinct := (Value.livesIn_of_mapping hentries hv.lives).1.distinct
  refine hdistinct.imp_of_mem fun {entry later} hentry hlater hdiffer => ?_
  have hsettled : ∀ {entry}, entry ∈ entries → entry.1.IsSettled heap ∧
      (entry.2.ownKey field).IsSettled heap ∧
      (entry.2.ownKey field).strictEq entry.1 = true := fun {entry} hmem =>
    ⟨Value.isSettled_of_livesIn (hv.keys entries hentries entry hmem).1,
      Value.isSettled_of_livesIn (ownKey_livesIn_of_mem hv hentries hmem),
      (Assertion.repeatsKey_iff.mp (hrepeats entry hmem)).2⟩
  rcases hsettled hentry with ⟨hkey, hown, hrepeated⟩
  rcases hsettled hlater with ⟨hkey', hown', hrepeated'⟩
  refine Bool.eq_false_iff.mpr fun hsame => ?_
  rcases hv.keys entries hentries entry hentry with ⟨hlives, hhashable⟩
  rcases hv.keys entries hentries later hlater with ⟨hlives', hhashable'⟩
  -- The way goes from key to key, and a key was told nothing for which an order counts.
  have htold := Value.toldNoOrder_of_hashable hhashable
  have hreached : entry.1.strictEq (later.2.ownKey field) = true :=
    Value.strictEq_trans hkey hown hown' htold (Value.strictEq_symm hown hkey hrepeated) hsame
  have hkeys : entry.1.strictEq later.1 = true :=
    Value.strictEq_trans hkey hown' hkey' htold hreached hrepeated'
  have hsameKey := Value.isSameKey_of_strictEq hlives hlives' hhashable hhashable' hkeys
  exact Bool.false_ne_true (hdiffer.symm.trans hsameKey)

theorem ownKey_hashable {entry : Value × Value} (hmem : entry ∈ entries)
    (happlied : ∀ c items, entry.2.ownKey field ≠ .applied c items) :
    (entry.2.ownKey field).hashable = .ok () := by
  rcases hv.keys entries hentries entry hmem with ⟨hlives, hhashable⟩
  exact Value.hashable_of_strictEq (ownKey_livesIn_of_mem hv hentries hmem) hlives
    (Assertion.repeatsKey_iff.mp (hrepeats entry hmem)).2 hhashable happlied

variable (hkeys : ∀ entry ∈ entries, (entry.2.ownKey field).hashable = .ok ())

include hkeys

theorem ownKey_isSameKey {entry : Value × Value} (hmem : entry ∈ entries) :
    (entry.2.ownKey field).isSameKey entry.1 = true := by
  rcases hv.keys entries hentries entry hmem with ⟨hlives, hhashable⟩
  exact Value.isSameKey_of_strictEq (ownKey_livesIn_of_mem hv hentries hmem) hlives
    (hkeys entry hmem) hhashable (Assertion.repeatsKey_iff.mp (hrepeats entry hmem)).2

/-- Under their fields the items are a mapping again. -/
theorem isMapping_ownKeys : Entries.IsMapping heap.items
    (entries.map fun entry => (entry.2.ownKey field, entry.2)) := by
  have hmapping := (Value.livesIn_of_mapping hentries hv.lives).1
  have hkept : ∀ {entry}, entry ∈ entries → (entry.2.ownKey field).KeepsTo heap.items :=
    fun {entry} hmem => Value.keepsTo_of_livesIn _ (ownKey_livesIn_of_mem hv hentries hmem)
  refine ⟨List.forall_mem_map.mpr fun entry hmem => hkept hmem, List.pairwise_map.mpr ?_⟩
  refine hmapping.distinct.imp_of_mem fun {entry later} hentry hlater hdiffer =>
    Bool.eq_false_iff.mpr fun hsame => ?_
  have hentrySame := ownKey_isSameKey hv hentries hrepeats hkeys hentry
  have hlaterSame := ownKey_isSameKey hv hentries hrepeats hkeys hlater
  have hentryKept := hmapping.kept entry hentry
  have hlaterKept := hmapping.kept later hlater
  -- From key to field, from field to field, and back to a key.
  have hback := Value.isSameKey_symm (hkept hentry) hentryKept hentrySame
  have hover := Value.isSameKey_trans (hkept hentry) (hkept hlater) hlaterKept hsame hlaterSame
  have hkey := Value.isSameKey_trans hentryKept (hkept hentry) hlaterKept hback hover
  exact Bool.false_ne_true (hdiffer.symm.trans hkey)

theorem rekeyed_eq : Entries.rekeyed field (entries.map (·.2)) =
    .ok (entries.map fun entry => (entry.2.ownKey field, entry.2)) := by
  have hhashable : Value.allHashable ((entries.map (·.2)).map (Value.ownKey field)) = .ok () := by
    rw [Value.allHashable_iff, List.forall_mem_map, List.forall_mem_map]
    exact hkeys
  have hkept := Entries.ofList_of_distinct (isMapping_ownKeys hv hentries hrepeats hkeys).distinct
  unfold Entries.rekeyed
  rw [hhashable, List.map_map]
  exact congrArg Except.ok hkept

/-- The items under their fields are equal to the record they are taken from, both ways. -/
theorem looselyEq_ownKeys (i : Identity) :
    (Value.dict i (entries.map fun entry => (entry.2.ownKey field, entry.2))).LooselyEq v ∧
      v.LooselyEq (.dict i (entries.map fun entry => (entry.2.ownKey field, entry.2))) := by
  have hmapping := (Value.livesIn_of_mapping hentries hv.lives).1
  have hagain := isMapping_ownKeys hv hentries hrepeats hkeys
  constructor
  · refine Value.looselyEq_of_respelled rfl hentries (Value.isUniversal_of_livesIn hv.lives)
      (Or.inl rfl) hagain.kept hmapping (List.length_map _)
      (List.forall_mem_map.mpr fun entry hmem => ?_)
    exact ⟨entry, hmem, ownKey_isSameKey hv hentries hrepeats hkeys hmem, rfl⟩
  · refine Value.looselyEq_of_respelled hentries rfl rfl (Or.inr rfl) hmapping.kept hagain
      (List.length_map _).symm fun entry hmem => ⟨_, List.mem_map_of_mem hmem, ?_, rfl⟩
    exact Value.isSameKey_symm (hagain.kept _ (List.mem_map_of_mem hmem))
      (hmapping.kept entry hmem) (ownKey_isSameKey hv hentries hrepeats hkeys hmem)

end Spellings

/-- A record under a class that was told a frozen set. Its item has the class that was told the set
    with the same members that can be changed. -/
def tagged : Value :=
  .dict (.given 0) [(.applied .list [.frozenSet (.given 1) [.int 1]],
    .dict (.given 2) [(.text "id", .applied .list [.set (.given 3) [.int 1]])])]

/-- What the objects of the record hold. -/
def taggedHeap : Heap :=
  ⟨fun _ => [.int 1], fun id =>
    if id = .given 0 then [(.applied .list [.frozenSet (.given 1) [.int 1]],
      .dict (.given 2) [(.text "id", .applied .list [.set (.given 3) [.int 1]])])]
    else [(.text "id", .applied .list [.set (.given 3) [.int 1]])]⟩

theorem tagged_isRecordIn : tagged.IsRecordIn taggedHeap := by
  have hset : (Value.frozenSet (.given 1) [.int 1]).KeepsTo taggedHeap.items :=
    ⟨rfl, List.pairwise_singleton _ _, trivial, trivial⟩
  have hother : (Value.frozenSet (.given 3) [.int 1]).KeepsTo taggedHeap.items :=
    ⟨rfl, List.pairwise_singleton _ _, trivial, trivial⟩
  refine ⟨⟨rfl, ⟨?_, List.pairwise_singleton _ _⟩, ⟨rfl, ⟨?_, List.pairwise_singleton _ _⟩,
    ⟨hother, trivial⟩, trivial⟩, trivial⟩, fun entries hentries => ?_⟩
  · exact List.forall_mem_singleton.mpr ⟨hset, trivial⟩
  · exact List.forall_mem_singleton.mpr trivial
  · rw [← Option.some.inj hentries]
    exact List.forall_mem_singleton.mpr ⟨⟨hset, trivial⟩, rfl⟩

/-- A record of which the only item has a binary number where its key is an integer. -/
def counted : Value :=
  .dict (.given 0) [(.int 1, .dict (.given 1) [(.text "id", .float (.given 2) (.ofInt 1))])]

/-- What the mappings of the record hold. -/
def countedHeap : Heap :=
  ⟨fun _ => [], fun id =>
    if id = .given 0 then
      [(.int 1, .dict (.given 1) [(.text "id", .float (.given 2) (.ofInt 1))])]
    else [(.text "id", .float (.given 2) (.ofInt 1))]⟩

theorem counted_isRecordIn : counted.IsRecordIn countedHeap := by
  refine ⟨⟨rfl, ⟨?_, List.pairwise_singleton _ _⟩, ⟨rfl, ⟨?_, List.pairwise_singleton _ _⟩,
    trivial, trivial⟩, trivial⟩, fun entries hentries => ?_⟩
  · exact List.forall_mem_singleton.mpr trivial
  · exact List.forall_mem_singleton.mpr trivial
  · rw [← Option.some.inj hentries]
    exact List.forall_mem_singleton.mpr ⟨trivial, rfl⟩

end Attest
