import Attest.Proofs.Misuse
import Attest.Proofs.PrimaryKey

/-!
# Containers as Expected Values

What becomes of a container where one value has to be matched by another.

Containers are matched by identity and scalars by what they are. So an alternative that expects a
list hands every other list on, with the same items or not, and an item does not repeat its key by
having a tuple in the field that is only equal to the one it is stored under.

Lists, tuples, mappings and sets are turned away before values of one kind are compared. Frozen sets
are not, and so they are compared by their members as if they were scalars.
`strictEq_container_iff` says that this is the only exception: no other two objects of which one is
a container are strictly equal, of whatever kinds they are and whatever they hold.

## Main definitions

* `Value.IsContainer`: Values that hold others.
* `Value.AreEqualFrozenSets`: Two frozen sets with the same members.

## Theorems

* `kindEq_container_iff`: Of two containers only frozen sets are compared.
* `strictEq_container_iff`: A container is strictly equal to itself, or it is a frozen set.
* `run_valueOr_of_differs`, `runKeyField_of_differs`: What a value that does not match leads to.
* `container_matched_by_identity`: What is done with a container that is another object.
* `frozenSet_matched_by_members`: Two frozen sets that match.
-/

namespace Attest

namespace Value

/-- A value that holds others: a list, a tuple with items, a mapping or a set. There is only one
    tuple without items. -/
def IsContainer : Value → Prop
  | list .. | dict .. | view .. | ordered .. | set .. | frozenSet .. => True
  | tuple _ items => items ≠ []
  | _ => False

/-- Two frozen sets that are loosely equal. -/
structure AreEqualFrozenSets (a b : Value) : Prop where
  /-- One is a frozen set. -/
  left : a.kind? = some .frozenSet
  /-- So is the other. -/
  right : b.kind? = some .frozenSet
  /-- They hold the same members. -/
  equal : a.looseEq b = .ok true

variable {a b : Value}

theorem isNumber_of_isContainer (h : a.IsContainer) : a.isNumber = false := by
  cases a with
  | int | float | fraction => exact False.elim h
  | _ => rfl

/-- Where one of two values is a container, only frozen sets are compared by their kind. -/
theorem kindEq_container_iff (h : a.IsContainer ∨ b.IsContainer) :
    kindEq a b = true ↔ a.AreEqualFrozenSets b := by
  constructor
  · intro hkind
    unfold kindEq at hkind
    split at hkind
    case h_7 => exact ⟨rfl, rfl, congrArg Except.ok hkind⟩
    case h_10 => exact absurd hkind Bool.false_ne_true
    -- All other kinds that are compared at all are kinds of scalars.
    all_goals exact (h.elim False.elim False.elim)
  · rintro ⟨hleft, hright, hequal⟩
    cases a with
    | frozenSet =>
        cases b with
        | frozenSet => exact Except.ok.inj hequal
        | _ => exact absurd hright (by simp [kind?])
    | _ => exact absurd hleft (by simp [kind?])

/-- A container is strictly equal to itself, and to nothing else unless it is a frozen set. -/
theorem strictEq_container_iff (h : a.IsContainer ∨ b.IsContainer) :
    a.strictEq b = true ↔ a.isSame b = true ∨ a.AreEqualFrozenSets b := by
  have hnumber : (a.isNumber && b.isNumber) = false := by
    rcases h with h | h
    · rw [isNumber_of_isContainer h, Bool.false_and]
    · rw [isNumber_of_isContainer h, Bool.and_false]
  rw [strictEq, hnumber, if_neg Bool.false_ne_true, Bool.or_eq_true, kindEq_container_iff h]

end Value

namespace Assertion

variable {v expected : Value}

/-- A value that is not the expected one is handed on, and nothing else is done with it. -/
theorem run_valueOr_of_differs (h : v.strictEq expected = false) (a : Assertion)
    (position : Position) (c : Context) :
    (valueOr expected a).visits position v = a.visits .fallback v ∧
      (valueOr expected a).run position v c = a.run .fallback v c := by
  simp only [visits, run, h, Bool.false_eq_true, if_false, and_self]

/-- What says something in front of a value says something. -/
theorem withShown_ne_empty {message : String} (h : message ≠ "") (v : Value) :
    withShown message v ≠ .ok "" :=
  bind_ne_empty fun form => ok_append_ne_empty h form

theorem runKeyField_of_differs {field : String} {key item : Value} (hne : field ≠ "")
    (hmapping : item.mapping?.isSome = true) (h : (item.ownKey field).strictEq key = false)
    (c : Context) : runKeyField (some field) key item c =
      c.failBehind (withShown (" key value does not match object field '" ++ field ++ "' value: ")
        (item.ownKey field)) := by
  rcases Option.isSome_iff_exists.mp hmapping with ⟨entries, hentries⟩
  rw [Value.ownKey, hentries, Option.getD_some] at h ⊢
  unfold runKeyField
  split
  · next hnone => exact absurd hnone (by simp only [reduceCtorEq, not_false_eq_true])
  · next hempty => exact absurd (Option.some.inj hempty) hne
  · next other _ hother =>
      rw [← Option.some.inj hother, hentries]
      simp only [h, Bool.false_eq_true, if_false]

/-- Of two objects of which one is a container, neither matches the other, unless both are frozen
    sets with the same members. An alternative hands the value on, to be checked once at the same
    place and nowhere else, and a record whose item has it where the key should be is refused. Two
    frozen sets with the same members match: the alternative accepts the value and calls nothing,
    and the item passes as if it repeated its key. -/
theorem container_matched_by_identity (hcontainer : v.IsContainer ∨ expected.IsContainer)
    (hdiffer : v.isSame expected = false) :
    (v.strictEq expected = true ↔ v.AreEqualFrozenSets expected) ∧
    (¬ v.AreEqualFrozenSets expected →
      (∀ (a : Assertion) (position : Position) (c : Context),
        (valueOr expected a).visits position v = a.visits .fallback v ∧
          (valueOr expected a).run position v c = a.run .fallback v c) ∧
      ∀ (field : String) (item : Value), field ≠ "" → item.mapping?.isSome = true →
        item.ownKey field = v →
        (∀ (c : Context) (factory : ErrorFactory),
          (runKeyField (some field) expected item c factory).result =
            .error (c.refusal (withShown (" key value does not match object field '" ++ field ++
              "' value: ") v) factory)) ∧
        ∀ (a : Assertion) (rules : RecordRules) (record : Value) (entries : List (Value × Value))
          (c : Context) (factory : ErrorFactory), rules.keyField = some field →
          record.mapping? = some entries → (expected, item) ∈ entries →
            (assertRecord a rules record c factory).result ≠ .ok ()) ∧
    (v.AreEqualFrozenSets expected →
      (∀ (a : Assertion) (position : Position) (c : Context) (factory : ErrorFactory),
        (valueOr expected a).run position v c factory = ⟨[], .ok ()⟩) ∧
      ∀ (field : String) (item : Value), field ≠ "" → item.mapping?.isSome = true →
        item.ownKey field = v → ∀ c, runKeyField (some field) expected item c = pure ()) := by
  have hstrict : v.strictEq expected = true ↔ v.AreEqualFrozenSets expected := by
    rw [Value.strictEq_container_iff hcontainer, hdiffer]
    exact or_iff_right Bool.false_ne_true
  refine ⟨hstrict, fun hfrozen => ⟨?_, ?_⟩, fun hfrozen => ⟨?_, ?_⟩⟩
  · exact run_valueOr_of_differs (Bool.eq_false_iff.mpr fun h => hfrozen (hstrict.mp h))
  · rintro field item hne hmapping rfl
    have hdiffers := Bool.eq_false_iff.mpr fun h => hfrozen (hstrict.mp h)
    refine ⟨fun c factory => ?_, fun a rules record entries c factory hfield hrecord hmem => ?_⟩
    · rw [runKeyField_of_differs hne hmapping hdiffers]
      exact c.failBehind_raises (withShown_ne_empty (by simp) _) factory
    · rw [ne_eq, assertRecord_keyField_iff hfield hne]
      rintro ⟨_, others, hothers, hrepeats⟩
      rw [hrecord, Option.some.injEq] at hothers
      have hrepeated := (repeatsKey_iff.mp (hrepeats _ (hothers ▸ hmem))).2
      exact Bool.false_ne_true (hdiffers.symm.trans hrepeated)
  · intro a position c factory
    simp only [run, hstrict.mpr hfrozen, if_true, Check.pure_apply]
  · rintro field item hne hmapping rfl
    exact runKeyField_of_repeats hne (repeatsKey_iff.mpr ⟨hmapping, hstrict.mpr hfrozen⟩)

/-- A tuple with one item. -/
def single (id : Nat) : Value :=
  .tuple (.given id) [.text "a"]

/-- Two tuples with the same item are equal, as values and as keys. Neither matches the other. -/
theorem container_matched_by_identity_tuples :
    (single 0).looseEq (single 1) = .ok true ∧ (single 0).isSameKey (single 1) = true ∧
      (single 0).strictEq (single 1) = false ∧
      (valueOr (single 1) (primitive .string)).run .part (single 0) (.root none) =
        (primitive .string).run .fallback (single 0) (.root none) ∧
      (assertRecord (primitive .nonNullable) ⟨none, some "id", none⟩
        (.dict (.given 2) [(single 1, .dict (.given 3) [(.text "id", single 0)])]) (.root none)
        .standard).result ≠ .ok () := by
  have hcontainer : (single 0).IsContainer ∨ (single 1).IsContainer :=
    Or.inl (List.cons_ne_nil _ _)
  have hfrozen : ¬ (single 0).AreEqualFrozenSets (single 1) := fun h =>
    absurd h.left (by simp [single, Value.kind?])
  rcases container_matched_by_identity hcontainer (by decide) with ⟨hstrict, hdiffers, _⟩
  refine ⟨rfl, by decide, Bool.eq_false_iff.mpr fun h => hfrozen (hstrict.mp h), ?_, ?_⟩
  · exact ((hdiffers hfrozen).1 _ _ _).2
  · exact ((hdiffers hfrozen).2 "id" (.dict (.given 3) [(.text "id", single 0)]) (by decide) rfl
      rfl).2 _ _ _ _ _ _ rfl rfl (List.mem_singleton_self _)

/-- A frozen set with one member. -/
def frozen (id : Nat) : Value :=
  .frozenSet (.given id) [.text "a"]

/-- Two frozen sets with the same member are two objects, and each is accepted for the other. -/
theorem frozenSet_matched_by_members :
    (frozen 1).IsContainer ∧ (frozen 0).isSame (frozen 1) = false ∧
      (frozen 0).strictEq (frozen 1) = true ∧
      (valueOr (frozen 1) (primitive .string)).run .part (frozen 0) (.root none) .standard =
        ⟨[], .ok ()⟩ ∧
      ((primitive .string).run .fallback (frozen 0) (.root none) .standard).result ≠ .ok () ∧
      (assertRecord (primitive .nonNullable) ⟨none, some "id", none⟩
        (.dict (.given 2) [(frozen 1, .dict (.given 3) [(.text "id", frozen 0)])]) (.root none)
        .standard).result = .ok () :=
  ⟨trivial, by decide, by decide, rfl, nofun, rfl⟩

end Assertion

end Attest
