import Attest.Proofs.KeyEquality
import Attest.Value.Equality

/-!
# Loose Equality

The equality that containers are built on is symmetric, and transitive where no order counts.

It looks into lists, tuples, mappings and sets, and on the way it takes a short cut: one object is
equal to itself without being asked. That the short cut is never a detour is a property of the
values at hand. What has one identity must hold the same things, and then being one object is a
special case of holding equal things. `LivesIn` says so by way of a heap, in which an identity can
be looked up, and at all depths.

In a heap the three ways of comparing containers lose their identities. Lists and tuples correspond
item by item. Sets are the same key once they are taken as sets that cannot be changed. Mappings
store equal values under the same keys: each entry of one has a partner in the other, and as
no two entries of a mapping share a partner, none of the other is left over. What holds nothing is
loosely equal to what is the same key, and among what may be a key this is so at all depths.

Three things may keep an equality from being one. An object may equal everything, and it is left
out. An object may refuse to be compared, and then nothing but the object itself is equal to it. Two
mappings for which the order of their entries counts may differ in nothing but the order, and then a
plain mapping is equal to both while they are not equal to each other. Symmetry does not suffer from
this, as the order is looked at only where it counts on both sides. Transitivity holds from a value
without such a mapping on, whatever stands behind it.

## Main definitions

* `Value.LooselyEq`: Two values are one object or loosely equal.
* `Heap`: What the objects at hand hold.
* `Value.LivesIn`: A value holds what the heap says.
* `Value.IsOrderFree`: A value holds no mapping for which the order counts.
* `Value.IsLooselyCoherent`: A value is equal to others in a symmetric way, and in a transitive one
  where no order counts.
* `Value.EntriesMatch`: Two mappings store equal values under the same keys.

## Theorems

* `looseEq_list`, `looseEq_mapping`, `looseEq_set`, `looseEq_plain`: What two values of one form are
  asked.
* `looselyEq_plain_iff`, `looselyEq_list_iff`, `looselyEq_tuple_iff`, `looselyEq_applied_iff`,
  `looselyEq_mapping_iff`, `looselyEq_set_iff`: When values of each form are loosely equal.
* `looselyEq_list`, `looselyEq_tuple`, `looselyEq_mapping`, `looselyEq_set`: The same in a heap.
* `isLooselyCoherent_of_livesIn`: What lives in a heap is compared in a coherent way.
* `looselyEq_self`, `looselyEq_symm`, `looselyEq_trans`: The laws of loose equality.
* `looselyEq_iff_isSameKey`: Among keys it is being the same key.
-/

namespace Attest

namespace Value

/-- Two values are one object or loosely equal, which is what containers ask of what they hold. -/
def LooselyEq (a b : Value) : Prop :=
  a.matchesItem b = .ok true

/-- Whether a value is compared by nothing that it holds. -/
def isPlain : Value → Bool
  | list .. | tuple .. | dict .. | view .. | ordered .. | set .. | frozenSet .. | applied .. => false
  | _ => true

/-- Whether a value is a mapping for which the order of its entries counts. -/
def isOrdered : Value → Bool
  | ordered .. => true
  | _ => false

/-- Whether a value is an object that equals everything. -/
def isUniversal : Value → Bool
  | object _ _ .universal => true
  | _ => false

/-- The members of a set, whether it can be changed or not. -/
def members? : Value → Option (List Value)
  | set _ items | frozenSet _ items => some items
  | _ => none

section Equations

variable {a b : Value} {i j : Identity}

theorem looseEq_list (xs ys : List Value) : (list i xs).looseEq (list j ys) =
    if xs.length = ys.length then itemsEq xs ys else .ok false :=
  rfl

theorem looseEq_tuple (xs ys : List Value) :
    (tuple i xs).looseEq (tuple j ys) = itemsEq xs ys :=
  rfl

theorem looseEq_applied (c d : BuiltinClass) (xs ys : List Value) :
    (applied c xs).looseEq (applied d ys) = if c = d then itemsEq xs ys else .ok false :=
  rfl

theorem looseEq_ordered (xs ys : List (Value × Value)) :
    (ordered i xs).looseEq (ordered j ys) = if xs.length = ys.length then
      (do if ← entriesEq xs ys then keysEq xs ys else .ok false) else .ok false :=
  rfl

/-- Unless the order counts for both of them, mappings of all forms are compared in one way. -/
theorem looseEq_mapping {xs ys : List (Value × Value)} (ha : a.mapping? = some xs)
    (hb : b.mapping? = some ys) (h : a.isOrdered = false ∨ b.isOrdered = false) :
    a.looseEq b = if xs.length = ys.length then entriesEq xs ys else .ok false := by
  cases a with
  | dict i entries | view i entries =>
      cases b with
      | dict | view | ordered => rw [← Option.some.inj ha, ← Option.some.inj hb]; rfl
      | _ => exact absurd hb (Option.some_ne_none _).symm
  | ordered i entries =>
      cases b with
      | dict | view => rw [← Option.some.inj ha, ← Option.some.inj hb]; rfl
      | ordered => exact absurd h (by simp only [isOrdered, Bool.true_eq_false, or_self,
          not_false_eq_true])
      | _ => exact absurd hb (Option.some_ne_none _).symm
  | _ => exact absurd ha (Option.some_ne_none _).symm

theorem looseEq_set {xs ys : List Value} (ha : a.members? = some xs) (hb : b.members? = some ys) :
    a.looseEq b = .ok (membersEq xs ys) := by
  cases a with
  | set | frozenSet =>
      cases b with
      | set | frozenSet => rw [← Option.some.inj ha, ← Option.some.inj hb]; rfl
      | _ => exact absurd hb (Option.some_ne_none _).symm
  | _ => exact absurd ha (Option.some_ne_none _).symm

/-- What is plain and no object is compared as a scalar, whatever it is compared with. -/
theorem looseEq_plain (ha : a.isPlain = true) (hobject : ∀ i text mode, a ≠ object i text mode) :
    a.looseEq b = a.scalarEq b := by
  cases a with
  | object i text mode => exact absurd rfl (hobject i text mode)
  | list | tuple | dict | view | ordered | set | frozenSet | applied =>
      exact absurd ha Bool.false_ne_true
  | _ => rfl

end Equations

section Cases

variable {a b : Value} {i : Identity} {xs ys : List Value}

theorem looselyEq_iff : a.LooselyEq b ↔ a.isSame b = true ∨ a.looseEq b = .ok true := by
  unfold LooselyEq matchesItem
  by_cases h : a.isSame b = true
  · simp only [h, if_true, true_or]
  · simp only [h, Bool.false_eq_true, if_false, false_or]

theorem itemsEq_iff : itemsEq xs ys = .ok true ↔ List.Forall₂ LooselyEq xs ys := by
  induction xs generalizing ys with
  | nil => cases ys <;> simp [itemsEq]
  | cons x xs ih =>
      cases ys with
      | nil => simp [itemsEq]
      | cons y ys =>
          rw [itemsEq, List.forall₂_cons, ← ih, looselyEq_iff]
          by_cases h : x.isSame y = true
          · simp only [h, if_true, true_or, true_and]
          · simp only [h, Bool.false_eq_true, if_false, false_or]
            rcases x.looseEq y with f | _ | _ <;> simp [bind, Except.bind]

theorem entriesEq_iff {xs ys : List (Value × Value)} : entriesEq xs ys = .ok true ↔
    ∀ entry ∈ xs, ∃ y, Entries.find? ys entry.1 = some y ∧ entry.2.LooselyEq y := by
  induction xs with
  | nil => simp [entriesEq]
  | cons entry xs ih =>
      rcases entry with ⟨key, x⟩
      rw [entriesEq, List.forall_mem_cons, ← ih]
      rcases Entries.find? ys key with _ | y
      · simp
      · simp only [Option.some.injEq, exists_eq_left', looselyEq_iff]
        by_cases h : x.isSame y = true
        · simp only [h, if_true, true_or, true_and]
        · simp only [h, Bool.false_eq_true, if_false, false_or]
          rcases x.looseEq y with f | _ | _ <;> simp [bind, Except.bind]

theorem keysEq_iff {xs ys : List (Value × Value)} :
    keysEq xs ys = .ok true ↔ List.Forall₂ (fun x y => x.1.LooselyEq y.1) xs ys := by
  induction xs generalizing ys with
  | nil => cases ys <;> simp [keysEq]
  | cons entry xs ih =>
      rcases entry with ⟨x, _⟩
      cases ys with
      | nil => simp [keysEq]
      | cons other ys =>
          rcases other with ⟨y, _⟩
          rw [keysEq, List.forall₂_cons, ← ih, looselyEq_iff]
          by_cases h : x.isSame y = true
          · simp only [h, if_true, true_or, true_and]
          · simp only [h, Bool.false_eq_true, if_false, false_or]
            rcases x.looseEq y with f | _ | _ <;> simp [bind, Except.bind]

theorem membersEq_iff : membersEq xs ys = true ↔
    xs.length = ys.length ∧ ∀ x ∈ xs, ∃ y ∈ ys, x.isSameKey y = true := by
  rw [membersEq, Bool.and_eq_true, decide_eq_true_eq, areKeysOf_iff]

/-- A decimal that refuses to be compared agrees with nothing. -/
theorem not_isSignalling_of_agrees {m n : Measure} (ha : a.number? = some m)
    (h : m.agrees n = true) : a.isSignalling = false := by
  cases a with
  | decimal id d =>
      rw [← Option.some.inj ha] at h
      cases d with
      | nan => cases n <;> exact absurd h Bool.false_ne_true
      | _ => rfl
  | _ => rfl

/-- Between numbers, being worth the same is what is compared, and no comparison is refused where
    it holds. -/
theorem compareNumbers_iff :
    (if a.isSignalling || b.isSignalling then .error .invalidOperation
      else .ok (a.sameWorth b) : Except Fault Bool) = .ok true ↔ a.sameWorth b = true := by
  constructor
  · intro h
    split at h
    · exact absurd h (by simp only [reduceCtorEq, not_false_eq_true])
    · exact Except.ok.inj h
  · intro h
    rcases (sameWorth_iff a b).mp h with ⟨m, n, ha, hb, hagrees⟩
    have hbsignal := not_isSignalling_of_agrees hb (n.agrees_comm m ▸ hagrees)
    simp only [not_isSignalling_of_agrees ha hagrees, hbsignal, h, Bool.or_self,
      Bool.false_eq_true, if_false]

theorem isSameKey_numeric_iff (ha : a.isNumeric = true) :
    a.isSameKey b = true ↔ a.isSame b = true ∨ a.sameWorth b = true := by
  cases a with
  | bool | int | float | fraction | decimal => simp [isSameKey]
  | _ => exact absurd ha Bool.false_ne_true

/-- Numbers of the same worth are the same key, of whatever kinds they are. -/
theorem isSameKey_of_worth {p : Extended} (ha : a.worth? = some p)
    (hb : b.worth? = some p) (hp : p ≠ .nan) : a.isSameKey b = true := by
  have hnumber : ∀ {x : Value}, x.worth? = some p → x.isNumeric = true ∧
      x.number? = some (.exact p) := by
    intro x hx
    cases x with
    | bool | int | float | fraction => exact ⟨rfl, congrArg (Option.map Measure.exact) hx⟩
    | _ => exact absurd hx (by simp [worth?])
  have hworth : a.sameWorth b = true := (sameWorth_iff a b).mpr
    ⟨_, _, (hnumber ha).2, (hnumber hb).2, (Extended.beq_eq_true_iff p p).mpr ⟨rfl, hp⟩⟩
  exact (isSameKey_numeric_iff (hnumber ha).1).mpr (Or.inr hworth)

theorem isPlain_of_isSame (h : a.isSame b = true) : a.isPlain = b.isPlain :=
  eq_of_isSame (fun v => by cases v <;> rfl) h

theorem isPlain_of_measure? {m : Measure} (h : a.measure? = some m) : a.isPlain = true := by
  cases a with
  | list | tuple | dict | view | ordered | set | frozenSet | applied =>
      exact absurd h (by simp [measure?, number?, worth?])
  | _ => rfl

theorem isNested_of_isPlain (h : a.isPlain = true) : a.isNested = false := by
  cases a with
  | tuple | frozenSet | applied => exact absurd h Bool.false_ne_true
  | _ => rfl

/-- An object that equals not everything equals itself alone, and refuses to be compared at most. -/
theorem looselyEq_object_iff {text : Writing} {mode : ObjectMode} (hmode : mode ≠ .universal) :
    (object i text mode).LooselyEq b ↔ (object i text mode).isSame b = true := by
  rw [looselyEq_iff]
  refine or_iff_left_of_imp fun h => ?_
  cases mode with
  | universal => exact absurd rfl hmode
  | refusing => cases h
  | plain | falsy =>
      replace h := Except.ok.inj h
      cases b with
      | object => exact h
      | _ => exact absurd h Bool.false_ne_true

/-- Nothing but an object itself equals an object, unless that one equals everything. -/
theorem scalarEq_object_ne {j : Identity} {text : Writing} {mode : ObjectMode}
    (hmode : mode ≠ .universal) : a.scalarEq (object j text mode) ≠ .ok true := by
  cases mode <;> simp_all [scalarEq, objectAnswer]

/-- What is plain is loosely equal to what is the same key. -/
theorem looselyEq_plain_iff (ha : a.isPlain = true) (hau : a.isUniversal = false)
    (hbu : b.isUniversal = false) : a.LooselyEq b ↔ a.isSameKey b = true := by
  have hkey := isSameKey_scalar_iff (b := b) (isNested_of_isPlain ha)
  have hscalar : a.isSame b = true ∨ a.scalarEq b = .ok true ↔ a.isSameKey b = true := by
    cases b with
    | object j text mode =>
        have hmode : mode ≠ .universal := by
          rintro rfl
          exact absurd hbu (by simp [isUniversal])
        have hagree : ¬ a.Agree (object j text mode) := fun ⟨m, n, _, hb, _⟩ =>
          absurd hb (by simp [measure?, number?, worth?])
        simp only [scalarEq_object_ne hmode, hkey, hagree]
    | _ =>
      simp only [scalarEq]
      split
      · next hnumeric =>
          rw [compareNumbers_iff, isSameKey_numeric_iff (Bool.and_eq_true_iff.mp hnumeric).1]
      · rw [Except.ok.injEq]
        exact or_iff_right_of_imp fun h => hkey.mpr (Or.inl h)
  cases a with
  | object i text mode =>
      have hmode : mode ≠ .universal := by
        rintro rfl
        exact absurd hau (by simp [isUniversal])
      rw [looselyEq_object_iff hmode, hkey]
      refine (or_iff_left ?_).symm
      rintro ⟨m, n, hmeasure, _⟩
      exact absurd hmeasure (by simp [measure?, number?, worth?])
  | list | tuple | dict | view | ordered | set | frozenSet | applied =>
      exact absurd ha Bool.false_ne_true
  | _ => rw [looselyEq_iff, ← hscalar, looseEq_plain ha (fun _ _ _ => Value.noConfusion)]

/-- A container is not loosely equal to what it is not compared with. -/
theorem not_looselyEq_of_unlike (ha : a.isPlain = false) (hb : b.isUniversal = false)
    (hsame : a.isSame b = false) (hkey : a.isSameKey b = false)
    (hloose : a.looseEq b = a.scalarEq b) : ¬ a.LooselyEq b := by
  have hnumeric : a.isNumeric = false := by
    cases a with
    | list | tuple | dict | view | ordered | set | frozenSet | applied => rfl
    | _ => exact absurd ha (by simp [isPlain])
  have hscalar : a.scalarEq b ≠ .ok true := by
    cases b with
    | object j text mode =>
        refine scalarEq_object_ne ?_
        rintro rfl
        exact absurd hb (by simp [isUniversal])
    | _ => simp [scalarEq, hnumeric, hkey]
  rw [looselyEq_iff, hsame, hloose]
  exact not_or.mpr ⟨Bool.false_ne_true, hscalar⟩

theorem looselyEq_list_iff (hb : b.isUniversal = false) : (list i xs).LooselyEq b ↔
    ∃ j ys, b = list j ys ∧ (i = j ∨ List.Forall₂ LooselyEq xs ys) := by
  cases b with
  | list j ys =>
      have hitems : (if xs.length = ys.length then itemsEq xs ys else .ok false) = .ok true ↔
          List.Forall₂ LooselyEq xs ys := by
        split
        · exact itemsEq_iff
        · next hlength =>
            exact iff_of_false (by simp only [Except.ok.injEq, Bool.false_eq_true,
              not_false_eq_true]) fun h => hlength h.length_eq
      simp only [looselyEq_iff, isSame, decide_eq_true_eq, looseEq_list, hitems, list.injEq]
      constructor
      · exact fun h => ⟨j, ys, ⟨rfl, rfl⟩, h⟩
      · rintro ⟨_, _, ⟨rfl, rfl⟩, h⟩
        exact h
  | _ =>
      refine iff_of_false (not_looselyEq_of_unlike rfl hb rfl rfl rfl) ?_
      simp only [reduceCtorEq, false_and, exists_false, not_false_eq_true]

theorem looselyEq_tuple_iff (hb : b.isUniversal = false) : (tuple i xs).LooselyEq b ↔
    ∃ j ys, b = tuple j ys ∧ ((i = j ∧ xs ≠ [] ∧ ys ≠ []) ∨ List.Forall₂ LooselyEq xs ys) := by
  cases b with
  | tuple j ys =>
      -- Empty tuples are one object, and have no items that could differ.
      have hsame : (tuple i xs).isSame (tuple j ys) = true ∨ List.Forall₂ LooselyEq xs ys ↔
          (i = j ∧ xs ≠ [] ∧ ys ≠ []) ∨ List.Forall₂ LooselyEq xs ys := by
        cases xs <;> cases ys <;> simp [isSame]
      simp only [looselyEq_iff, looseEq_tuple, itemsEq_iff, hsame, tuple.injEq]
      constructor
      · exact fun h => ⟨j, ys, ⟨rfl, rfl⟩, h⟩
      · rintro ⟨_, _, ⟨rfl, rfl⟩, h⟩
        exact h
  | _ =>
      refine iff_of_false (not_looselyEq_of_unlike rfl hb rfl rfl rfl) ?_
      simp only [reduceCtorEq, false_and, exists_false, not_false_eq_true]

theorem looselyEq_applied_iff {c : BuiltinClass} (hb : b.isUniversal = false) :
    (applied c xs).LooselyEq b ↔ ∃ ys, b = applied c ys ∧ List.Forall₂ LooselyEq xs ys := by
  cases b with
  | applied d ys =>
      simp only [looselyEq_iff, looseEq_applied, isSame, Bool.false_eq_true, false_or,
        applied.injEq]
      constructor
      · intro h
        split at h
        · next hc => exact ⟨ys, ⟨hc.symm, rfl⟩, itemsEq_iff.mp h⟩
        · exact absurd h (by simp only [Except.ok.injEq, Bool.false_eq_true, not_false_eq_true])
      · rintro ⟨_, ⟨rfl, rfl⟩, h⟩
        rw [if_pos rfl, itemsEq_iff]
        exact h
  | _ =>
      refine iff_of_false (not_looselyEq_of_unlike rfl hb rfl rfl rfl) ?_
      simp only [reduceCtorEq, false_and, exists_false, not_false_eq_true]

/-- Two mappings for which the order counts are compared by their entries first, and then by the
    order of their keys. -/
theorem looseEq_ordered_iff {j : Identity} {xs ys : List (Value × Value)} :
    (ordered i xs).looseEq (ordered j ys) = .ok true ↔ (xs.length = ys.length ∧
      ∀ entry ∈ xs, ∃ y, Entries.find? ys entry.1 = some y ∧ entry.2.LooselyEq y) ∧
      List.Forall₂ (fun x y => x.1.LooselyEq y.1) xs ys := by
  rw [looseEq_ordered, ← entriesEq_iff, ← keysEq_iff]
  split
  · next hlength =>
      rcases entriesEq xs ys with f | _ | _ <;> simp [bind, Except.bind, hlength]
  · next hlength => simp [hlength]

/-- Mappings are compared by what they store under the same keys, whether they can be written to
    or not. Two mappings for which the order counts have to hold their keys in one order too. -/
theorem looselyEq_mapping_iff {xs : List (Value × Value)} (ha : a.mapping? = some xs)
    (hb : b.isUniversal = false) : a.LooselyEq b ↔ ∃ ys, b.mapping? = some ys ∧
      (a.isSame b = true ∨ (xs.length = ys.length ∧
        ∀ entry ∈ xs, ∃ y, Entries.find? ys entry.1 = some y ∧ entry.2.LooselyEq y) ∧
        (a.isOrdered = true → b.isOrdered = true →
          List.Forall₂ (fun x y => x.1.LooselyEq y.1) xs ys)) := by
  have hentries : ∀ ys, (if xs.length = ys.length then entriesEq xs ys else .ok false) = .ok true ↔
      xs.length = ys.length ∧
        ∀ entry ∈ xs, ∃ y, Entries.find? ys entry.1 = some y ∧ entry.2.LooselyEq y := by
    intro ys
    split
    · next hlength => rw [entriesEq_iff, and_iff_right hlength]
    · next hlength => simp [hlength]
  cases a with
  | dict i entries | view i entries =>
      rw [← Option.some.inj ha] at hentries ⊢
      cases b with
      | dict | view | ordered =>
          rw [looselyEq_iff, looseEq_mapping rfl rfl (Or.inl rfl), hentries]
          simp only [mapping?, Option.some.injEq, exists_eq_left', isOrdered, Bool.false_eq_true,
            false_implies, and_true]
      | _ =>
          refine iff_of_false (not_looselyEq_of_unlike rfl hb rfl rfl rfl) ?_
          simp only [mapping?, reduceCtorEq, false_and, exists_false, not_false_eq_true]
  | ordered i entries =>
      rw [← Option.some.inj ha] at hentries ⊢
      cases b with
      | dict | view =>
          rw [looselyEq_iff, looseEq_mapping rfl rfl (Or.inr rfl), hentries]
          simp only [mapping?, Option.some.injEq, exists_eq_left', isOrdered, Bool.false_eq_true,
            false_implies, implies_true, and_true]
      | ordered j ys =>
          simp only [looselyEq_iff, looseEq_ordered_iff, mapping?, Option.some.injEq,
            exists_eq_left', isOrdered, true_implies]
      | _ =>
          refine iff_of_false (not_looselyEq_of_unlike rfl hb rfl rfl rfl) ?_
          simp only [mapping?, reduceCtorEq, false_and, exists_false, not_false_eq_true]
  | _ => exact absurd ha (by simp [mapping?])

theorem looselyEq_set_iff (ha : a.members? = some xs) (hb : b.isUniversal = false) :
    a.LooselyEq b ↔ ∃ ys, b.members? = some ys ∧
      (a.isSame b = true ∨ xs.length = ys.length ∧ ∀ x ∈ xs, ∃ y ∈ ys, x.isSameKey y = true) := by
  have hmembers : ∀ ys, (.ok (membersEq xs ys) : Except Fault Bool) = .ok true ↔
      xs.length = ys.length ∧ ∀ x ∈ xs, ∃ y ∈ ys, x.isSameKey y = true := fun ys => by
    rw [Except.ok.injEq, membersEq_iff]
  cases a with
  | set i items | frozenSet i items =>
      rw [← Option.some.inj ha] at hmembers ⊢
      cases b with
      | set j ys | frozenSet j ys =>
          simp only [looselyEq_iff, looseEq_set, hmembers, members?, Option.some.injEq,
            exists_eq_left']
      | _ =>
          refine iff_of_false (not_looselyEq_of_unlike rfl hb rfl rfl rfl) ?_
          simp only [members?, reduceCtorEq, false_and, exists_false, not_false_eq_true]
  | _ => exact absurd ha (by simp [members?])

end Cases

section Reflexivity

mutual

theorem isSameKey_self : ∀ a : Value, a.isSameKey a = true
  | tuple i items => isSameKey_tuple_iff.mpr ⟨i, items, rfl, Or.inr (sameKeys_self items)⟩
  | frozenSet i items => isSameKey_frozenSet_iff.mpr ⟨i, items, rfl, Or.inl rfl⟩
  | applied c items => isSameKey_applied_iff.mpr ⟨items, rfl, sameKeys_self items⟩
  | undefined | null | bool _ | int _ | float .. | fraction _ | decimal .. | text _ | bytes _
  | dateTime _ | timestamp _ | date _ | list .. | dict .. | view .. | ordered .. | set ..
  | function .. | callable .. | builtin _ | object .. | exception .. =>
      (isSameKey_scalar_iff rfl).mpr (Or.inl (isSame_self fun _ _ => by
        simp only [ne_eq, reduceCtorEq, not_false_eq_true]))

theorem sameKeys_self : ∀ items : List Value,
    List.Forall₂ (fun x y => x.isSameKey y = true) items items
  | [] => .nil
  | item :: items => .cons (isSameKey_self item) (sameKeys_self items)

end

mutual

theorem looselyEq_self : ∀ a : Value, a.LooselyEq a
  | applied c items => (looselyEq_applied_iff rfl).mpr ⟨items, rfl, itemsLooselyEq_self items⟩
  | undefined | null | bool _ | int _ | float .. | fraction _ | decimal .. | text _ | bytes _
  | dateTime _ | timestamp _ | date _ | list .. | tuple .. | dict .. | view .. | ordered ..
  | set .. | frozenSet .. | function .. | callable .. | builtin _ | object .. | exception .. =>
      looselyEq_iff.mpr (Or.inl (isSame_self fun _ _ => by
        simp only [ne_eq, reduceCtorEq, not_false_eq_true]))

theorem itemsLooselyEq_self : ∀ items : List Value, List.Forall₂ LooselyEq items items
  | [] => .nil
  | item :: items => .cons (looselyEq_self item) (itemsLooselyEq_self items)

end

end Reflexivity

end Value

/-- What the objects at hand hold. -/
structure Heap where
  /-- The items of a list, a tuple or a set. -/
  items : Identity → List Value
  /-- The entries of a mapping. -/
  entries : Identity → List (Value × Value)

namespace Value

mutual

/-- A value lives in a heap: what it holds under an identity is what the heap holds there, at all
    depths. No object in it equals everything. Keys that are compared in order live there too. -/
def LivesIn (heap : Heap) : Value → Prop
  | list id items => heap.items id = items ∧ AllLiveIn heap items
  | tuple id items => (items ≠ [] → heap.items id = items) ∧ AllLiveIn heap items
  | dict id entries | view id entries =>
    heap.entries id = entries ∧ Entries.IsMapping heap.items entries ∧ EntriesLiveIn heap entries
  | ordered id entries =>
    heap.entries id = entries ∧ Entries.IsMapping heap.items entries ∧
      EntriesLiveIn heap entries ∧ KeysLiveIn heap entries
  | set id items | frozenSet id items => (frozenSet id items).KeepsTo heap.items
  | applied _ items => AllLiveIn heap items
  | object _ _ mode => mode ≠ .universal
  | _ => True

/-- All of the values live in a heap. -/
def AllLiveIn (heap : Heap) : List Value → Prop
  | [] => True
  | v :: vs => LivesIn heap v ∧ AllLiveIn heap vs

/-- All that is stored under keys lives in a heap. -/
def EntriesLiveIn (heap : Heap) : List (Value × Value) → Prop
  | [] => True
  | (_, v) :: entries => LivesIn heap v ∧ EntriesLiveIn heap entries

/-- All keys live in a heap. -/
def KeysLiveIn (heap : Heap) : List (Value × Value) → Prop
  | [] => True
  | (key, _) :: entries => LivesIn heap key ∧ KeysLiveIn heap entries

end

mutual

/-- Whether no mapping for which the order counts is held by a value, at any depth. -/
def IsOrderFree : Value → Prop
  | ordered .. => False
  | list _ items | tuple _ items | applied _ items => AllOrderFree items
  | dict _ entries | view _ entries => EntriesOrderFree entries
  | _ => True

/-- Whether none of the values holds a mapping for which the order counts. -/
def AllOrderFree : List Value → Prop
  | [] => True
  | v :: vs => IsOrderFree v ∧ AllOrderFree vs

/-- Whether nothing that is stored under keys holds a mapping for which the order counts. -/
def EntriesOrderFree : List (Value × Value) → Prop
  | [] => True
  | (_, v) :: entries => IsOrderFree v ∧ EntriesOrderFree entries

end

/-- A value is loosely equal to those that live in a heap in a symmetric way, and in a transitive
    one unless it holds a mapping for which the order counts. -/
def IsLooselyCoherent (heap : Heap) (a : Value) : Prop :=
  ∀ b, b.LivesIn heap → a.LooselyEq b → b.LooselyEq a ∧
    (a.IsOrderFree → ∀ c, c.LivesIn heap → b.LooselyEq c → a.LooselyEq c)

section Living

variable {heap : Heap} {a b : Value} {i : Identity} {xs : List Value}

theorem isUniversal_of_livesIn (h : a.LivesIn heap) : a.isUniversal = false := by
  cases a with
  | object i text mode =>
      cases mode with
      | universal => exact absurd rfl h
      | _ => rfl
  | _ => rfl

theorem livesIn_of_mem (h : AllLiveIn heap xs) : ∀ x ∈ xs, x.LivesIn heap := by
  induction xs with
  | nil => exact fun x hmem => absurd hmem List.not_mem_nil
  | cons x xs ih => exact List.forall_mem_cons.mpr ⟨h.1, ih h.2⟩

theorem livesIn_of_entry {entries : List (Value × Value)} (h : EntriesLiveIn heap entries) :
    ∀ entry ∈ entries, entry.2.LivesIn heap := by
  induction entries with
  | nil => exact fun x hmem => absurd hmem List.not_mem_nil
  | cons entry entries ih => exact List.forall_mem_cons.mpr ⟨h.1, ih h.2⟩

theorem livesIn_of_key {entries : List (Value × Value)} (h : KeysLiveIn heap entries) :
    ∀ entry ∈ entries, entry.1.LivesIn heap := by
  induction entries with
  | nil => exact fun x hmem => absurd hmem List.not_mem_nil
  | cons entry entries ih => exact List.forall_mem_cons.mpr ⟨h.1, ih h.2⟩

theorem isOrderFree_of_mem (h : AllOrderFree xs) : ∀ x ∈ xs, x.IsOrderFree := by
  induction xs with
  | nil => exact fun x hmem => absurd hmem List.not_mem_nil
  | cons x xs ih => exact List.forall_mem_cons.mpr ⟨h.1, ih h.2⟩

theorem isOrderFree_of_entry {entries : List (Value × Value)} (h : EntriesOrderFree entries) :
    ∀ entry ∈ entries, entry.2.IsOrderFree := by
  induction entries with
  | nil => exact fun x hmem => absurd hmem List.not_mem_nil
  | cons entry entries ih => exact List.forall_mem_cons.mpr ⟨h.1, ih h.2⟩

/-- In a heap lists are compared by their items alone. -/
theorem looselyEq_list (ha : (list i xs).LivesIn heap) (hb : b.LivesIn heap) :
    (list i xs).LooselyEq b ↔ ∃ j ys, b = list j ys ∧ List.Forall₂ LooselyEq xs ys := by
  rw [looselyEq_list_iff (isUniversal_of_livesIn hb)]
  refine exists_congr fun j => exists_congr fun ys => and_congr_right ?_
  rintro rfl
  refine or_iff_right_of_imp ?_
  rintro rfl
  rw [← ha.1, hb.1]
  exact itemsLooselyEq_self ys

theorem looselyEq_tuple (ha : (tuple i xs).LivesIn heap) (hb : b.LivesIn heap) :
    (tuple i xs).LooselyEq b ↔ ∃ j ys, b = tuple j ys ∧ List.Forall₂ LooselyEq xs ys := by
  rw [looselyEq_tuple_iff (isUniversal_of_livesIn hb)]
  refine exists_congr fun j => exists_congr fun ys => and_congr_right ?_
  rintro rfl
  refine or_iff_right_of_imp ?_
  rintro ⟨rfl, hx, hy⟩
  rw [← ha.1 hx, hb.1 hy]
  exact itemsLooselyEq_self ys

theorem livesIn_of_mapping {xs : List (Value × Value)} (hxs : a.mapping? = some xs)
    (ha : a.LivesIn heap) : Entries.IsMapping heap.items xs ∧ EntriesLiveIn heap xs := by
  cases a with
  | dict i entries | view i entries => exact Option.some.inj hxs ▸ ha.2
  | ordered i entries => exact Option.some.inj hxs ▸ ⟨ha.2.1, ha.2.2.1⟩
  | _ => exact absurd hxs (by simp [mapping?])

/-- The keys of a mapping for which the order counts live in the heap themselves. -/
theorem livesIn_of_ordered {xs : List (Value × Value)} (hxs : a.mapping? = some xs)
    (ha : a.LivesIn heap) (hordered : a.isOrdered = true) : KeysLiveIn heap xs := by
  cases a with
  | ordered i entries => exact Option.some.inj hxs ▸ ha.2.2.2
  | _ => exact absurd hordered Bool.false_ne_true

/-- In a heap one object holds the same entries. -/
theorem entries_eq_of_isSame {xs : List (Value × Value)} (hxs : a.mapping? = some xs)
    (ha : a.LivesIn heap) (hb : b.LivesIn heap) (h : a.isSame b = true) : b.mapping? = some xs := by
  cases a with
  | dict i entries | view i entries | ordered i entries =>
      cases b with
      | dict j others | view j others | ordered j others =>
          -- Mappings of two forms are never one object.
          first
            | exact absurd h Bool.false_ne_true
            | rw [← hxs, mapping?, mapping?, ← ha.1, ← hb.1, (of_decide_eq_true h : i = j)]
      | _ => exact absurd h Bool.false_ne_true
  | _ => exact absurd hxs (by simp [mapping?])

/-- A look-up finds what stands under the same key. -/
theorem find?_iff {ys : List (Value × Value)} (hys : Entries.IsMapping heap.items ys) {key : Value}
    (hkey : key.KeepsTo heap.items) {P : Value → Prop} :
    (∃ y, Entries.find? ys key = some y ∧ P y) ↔
      ∃ other ∈ ys, key.isSameKey other.1 = true ∧ P other.2 := by
  constructor
  · rintro ⟨y, hfind, hy⟩
    rcases Option.map_eq_some_iff.mp hfind with ⟨other, hother, rfl⟩
    have hmem := List.mem_of_find?_eq_some hother
    have hsame := List.find?_some hother
    exact ⟨other, hmem, isSameKey_symm (hys.kept other hmem) hkey hsame, hy⟩
  · rintro ⟨other, hmem, hsame, hother⟩
    exact ⟨other.2, Entries.find?_of_isSameKey hys hkey hmem hsame, hother⟩

/-- Two mappings have as many entries, and each entry of one has a partner in the other that stores
    an equal value under the same key. -/
def EntriesMatch (xs ys : List (Value × Value)) : Prop :=
  xs.length = ys.length ∧ ∀ entry ∈ xs, ∃ other ∈ ys,
    entry.1.isSameKey other.1 = true ∧ entry.2.LooselyEq other.2

/-- In a heap mappings are compared by their entries alone, and by their order if it counts for
    both. -/
theorem looselyEq_mapping {xs : List (Value × Value)} (hxs : a.mapping? = some xs)
    (ha : a.LivesIn heap) (hb : b.LivesIn heap) :
    a.LooselyEq b ↔ ∃ ys, b.mapping? = some ys ∧ EntriesMatch xs ys ∧
      (a.isOrdered = true → b.isOrdered = true →
        List.Forall₂ (fun x y => x.1.LooselyEq y.1) xs ys) := by
  rw [looselyEq_mapping_iff hxs (isUniversal_of_livesIn hb)]
  refine exists_congr fun ys => and_congr_right fun hys => ?_
  have hkept := (livesIn_of_mapping hxs ha).1.kept
  have hfind : (∀ entry ∈ xs, ∃ y, Entries.find? ys entry.1 = some y ∧ entry.2.LooselyEq y) ↔
      ∀ entry ∈ xs, ∃ other ∈ ys,
        entry.1.isSameKey other.1 = true ∧ entry.2.LooselyEq other.2 :=
    forall₂_congr fun entry hmem => find?_iff (livesIn_of_mapping hys hb).1 (hkept entry hmem)
  rw [hfind, EntriesMatch]
  refine or_iff_right_of_imp fun hsame => ?_
  rw [entries_eq_of_isSame hxs ha hb hsame, Option.some.injEq] at hys
  subst hys
  exact ⟨⟨rfl, fun entry hmem => ⟨entry, hmem, isSameKey_self _, looselyEq_self _⟩⟩,
    fun _ _ => List.forall₂_same.mpr fun entry _ => looselyEq_self entry.1⟩

theorem livesIn_of_members (hxs : a.members? = some xs) (ha : a.LivesIn heap) :
    a.sought.KeepsTo heap.items ∧ ∃ i, a.sought = frozenSet i xs := by
  cases a with
  | set i items | frozenSet i items => exact ⟨ha, i, Option.some.inj hxs ▸ rfl⟩
  | _ => exact absurd hxs (by simp [members?])

theorem isSame_sought (h : a.isSame b = true) : a.sought.isSame b.sought = true := by
  cases a with
  | set i items =>
      cases b with
      | set => exact h
      | _ => exact absurd h Bool.false_ne_true
  | _ =>
      cases b with
      | set => exact absurd h (by simp [isSame])
      | _ => exact h

/-- In a heap sets are compared as what they are looked for in a set. -/
theorem looselyEq_set (hxs : a.members? = some xs) (ha : a.LivesIn heap) (hb : b.LivesIn heap) :
    a.LooselyEq b ↔ ∃ ys, b.members? = some ys ∧ a.sought.isSameKey b.sought = true := by
  rw [looselyEq_set_iff hxs (isUniversal_of_livesIn hb)]
  refine exists_congr fun ys => and_congr_right fun hys => ?_
  rcases livesIn_of_members hxs ha with ⟨haKept, i, hsoughtA⟩
  rcases livesIn_of_members hys hb with ⟨hbKept, j, hsoughtB⟩
  rw [hsoughtA] at haKept
  rw [hsoughtB] at hbKept
  have hself : i = j → xs.length = ys.length ∧ ∀ x ∈ xs, ∃ y ∈ ys, x.isSameKey y = true := by
    rintro rfl
    rw [← haKept.1, hbKept.1]
    exact ⟨rfl, fun x hx => ⟨x, hx, isSameKey_self x⟩⟩
  have hsame : a.isSame b = true → i = j := fun h => by
    have hsought := isSame_sought h
    rw [hsoughtA, hsoughtB] at hsought
    exact of_decide_eq_true hsought
  rw [hsoughtA, hsoughtB, isSameKey_frozenSet_iff]
  constructor
  · exact fun h => ⟨j, ys, rfl, Or.inr (h.elim (fun h => hself (hsame h)) id)⟩
  · rintro ⟨_, _, hform, h⟩
    rw [frozenSet.injEq] at hform
    rcases hform with ⟨rfl, rfl⟩
    exact Or.inr (h.elim hself id)

/-- Where items are compared one by one, the comparison is as coherent as theirs. -/
theorem isLooselyCoherent_of_items {ι : Type} {wrap : ι → List Value → Value} {i : ι}
    (hwrap : ∀ i xs b, (wrap i xs).LivesIn heap → b.LivesIn heap →
      ((wrap i xs).LooselyEq b ↔ ∃ j ys, b = wrap j ys ∧ List.Forall₂ LooselyEq xs ys))
    (hitems : ∀ i xs, (wrap i xs).LivesIn heap → ∀ x ∈ xs, x.LivesIn heap)
    (hfree : (wrap i xs).IsOrderFree → AllOrderFree xs)
    (ha : (wrap i xs).LivesIn heap) (hxs : ∀ x ∈ xs, x.IsLooselyCoherent heap) :
    (wrap i xs).IsLooselyCoherent heap := by
  intro b hb hab
  rcases (hwrap i xs b ha hb).mp hab with ⟨j, ys, rfl, hxy⟩
  have hys := hitems j ys hb
  refine ⟨(hwrap j ys _ hb ha).mpr ⟨i, xs, rfl, ?_⟩, fun hunordered c hc hbc => ?_⟩
  · exact forall₂_symm_of (fun x hx y hy hxy => (hxs x hx y (hys y hy) hxy).1) hxy
  · rcases (hwrap j ys c hb hc).mp hbc with ⟨k, zs, rfl, hyz⟩
    have hzs := hitems k zs hc
    refine (hwrap i xs _ ha hc).mpr ⟨k, zs, rfl, forall₂_trans_of ?_ hxy hyz⟩
    have hxsFree := isOrderFree_of_mem (hfree hunordered)
    exact fun x hx y hy z hz hxy => (hxs x hx y (hys y hy) hxy).2 (hxsFree x hx) z (hzs z hz)

theorem isLooselyCoherent_applied {t : BuiltinClass} (ha : (applied t xs).LivesIn heap)
    (hxs : ∀ x ∈ xs, x.IsLooselyCoherent heap) : (applied t xs).IsLooselyCoherent heap := by
  have hwrap : ∀ (_ : Unit) xs b, (applied t xs).LivesIn heap → b.LivesIn heap →
      ((applied t xs).LooselyEq b ↔
        ∃ (_ : Unit) (ys : _), b = applied t ys ∧ List.Forall₂ LooselyEq xs ys) := by
    intro _ xs b _ hb
    rw [looselyEq_applied_iff (isUniversal_of_livesIn hb)]
    exact ⟨fun ⟨ys, h⟩ => ⟨(), ys, h⟩, fun ⟨_, ys, h⟩ => ⟨ys, h⟩⟩
  exact @isLooselyCoherent_of_items heap xs Unit (fun _ => applied t) () hwrap
    (fun _ _ h => livesIn_of_mem h) id ha hxs

section Entries

variable {xs ys zs : List (Value × Value)}

/-- Mappings that store equal values under the same keys do so the other way round. -/
theorem EntriesMatch.symm (hxs : Entries.IsMapping heap.items xs)
    (hys : Entries.IsMapping heap.items ys) (hlive : EntriesLiveIn heap ys)
    (hcoherent : ∀ entry ∈ xs, entry.2.IsLooselyCoherent heap) (h : EntriesMatch xs ys) :
    EntriesMatch ys xs := by
  refine ⟨h.1.symm, fun other hother => ?_⟩
  -- Entries under different keys have different partners, so each partner is one of an entry.
  have hown : xs.Pairwise fun entry later => ∀ other ∈ ys,
      entry.1.isSameKey other.1 = true ∧ entry.2.LooselyEq other.2 →
        ¬ (later.1.isSameKey other.1 = true ∧ later.2.LooselyEq other.2) := by
    refine hxs.distinct.imp_of_mem fun {entry later} hentry hlater hdiffer other hother hhere
      hthere => ?_
    have hback := isSameKey_symm (hxs.kept later hlater) (hys.kept other hother) hthere.1
    have hsame := isSameKey_trans (hxs.kept entry hentry) (hys.kept other hother)
      (hxs.kept later hlater) hhere.1 hback
    exact absurd (hdiffer.symm.trans hsame) Bool.false_ne_true
  rcases exists_partner h.1.ge h.2 hown other hother with ⟨entry, hentry, hkey, hitem⟩
  exact ⟨entry, hentry, isSameKey_symm (hxs.kept entry hentry) (hys.kept other hother) hkey,
    (hcoherent entry hentry other.2 (livesIn_of_entry hlive other hother) hitem).1⟩

theorem EntriesMatch.trans (hxs : Entries.IsMapping heap.items xs)
    (hys : Entries.IsMapping heap.items ys) (hysLive : EntriesLiveIn heap ys)
    (hzs : Entries.IsMapping heap.items zs) (hzsLive : EntriesLiveIn heap zs)
    (hcoherent : ∀ entry ∈ xs, entry.2.IsLooselyCoherent heap) (hfree : EntriesOrderFree xs)
    (hxy : EntriesMatch xs ys) (hyz : EntriesMatch ys zs) : EntriesMatch xs zs := by
  refine ⟨hxy.1.trans hyz.1, fun entry hentry => ?_⟩
  rcases hxy.2 entry hentry with ⟨other, hother, hkey, hitem⟩
  rcases hyz.2 other hother with ⟨last, hlast, hkey', hitem'⟩
  exact ⟨last, hlast, isSameKey_trans (hxs.kept entry hentry) (hys.kept other hother)
      (hzs.kept last hlast) hkey hkey',
    (hcoherent entry hentry other.2 (livesIn_of_entry hysLive other hother) hitem).2
      (isOrderFree_of_entry hfree entry hentry) last.2 (livesIn_of_entry hzsLive last hlast) hitem'⟩

theorem isOrderFree_of_mapping (hxs : a.mapping? = some xs) (h : a.IsOrderFree) :
    a.isOrdered = false ∧ EntriesOrderFree xs := by
  cases a with
  | dict | view => exact Option.some.inj hxs ▸ ⟨rfl, h⟩
  | ordered => exact absurd h id
  | _ => exact absurd hxs (by simp [mapping?])

/-- Mappings are compared in a coherent way if what they store is, and the keys are where their
    order counts. -/
theorem isLooselyCoherent_mapping (hxs : a.mapping? = some xs) (ha : a.LivesIn heap)
    (hcoherent : ∀ entry ∈ xs, entry.2.IsLooselyCoherent heap)
    (hkeys : a.isOrdered = true → ∀ entry ∈ xs, entry.1.IsLooselyCoherent heap) :
    a.IsLooselyCoherent heap := by
  intro b hb hab
  rcases (looselyEq_mapping hxs ha hb).mp hab with ⟨ys, hys, hxy, horder⟩
  rcases livesIn_of_mapping hxs ha with ⟨hxsKept, _⟩
  rcases livesIn_of_mapping hys hb with ⟨hysKept, hysLive⟩
  refine ⟨(looselyEq_mapping hys hb ha).mpr ⟨xs, hxs, hxy.symm hxsKept hysKept hysLive hcoherent,
      fun hbOrdered haOrdered => ?_⟩, fun hfree c hc hbc => ?_⟩
  · have hysKeys := livesIn_of_key (livesIn_of_ordered hys hb hbOrdered)
    exact forall₂_symm_of (fun entry hentry other hother h =>
      (hkeys haOrdered entry hentry other.1 (hysKeys other hother) h).1) (horder haOrdered hbOrdered)
  · rcases (looselyEq_mapping hys hb hc).mp hbc with ⟨zs, hzs, hyz, _⟩
    rcases livesIn_of_mapping hzs hc with ⟨hzsKept, hzsLive⟩
    rcases isOrderFree_of_mapping hxs hfree with ⟨hunordered, hstored⟩
    refine (looselyEq_mapping hxs ha hc).mpr ⟨zs, hzs,
      hxy.trans hxsKept hysKept hysLive hzsKept hzsLive hcoherent hstored hyz, fun haOrdered => ?_⟩
    exact absurd (hunordered.symm.trans haOrdered) Bool.false_ne_true

end Entries

theorem isLooselyCoherent_set (hxs : a.members? = some xs) (ha : a.LivesIn heap) :
    a.IsLooselyCoherent heap := by
  intro b hb hab
  rcases (looselyEq_set hxs ha hb).mp hab with ⟨ys, hys, hsame⟩
  have haKept := (livesIn_of_members hxs ha).1
  have hbKept := (livesIn_of_members hys hb).1
  refine ⟨(looselyEq_set hys hb ha).mpr ⟨xs, hxs, isSameKey_symm haKept hbKept hsame⟩,
    fun _ c hc hbc => ?_⟩
  rcases (looselyEq_set hys hb hc).mp hbc with ⟨zs, hzs, hsame'⟩
  have hcKept := (livesIn_of_members hzs hc).1
  exact (looselyEq_set hxs ha hc).mpr ⟨zs, hzs, isSameKey_trans haKept hbKept hcKept hsame hsame'⟩

theorem isLooselyCoherent_plain (hplain : a.isPlain = true) (ha : a.LivesIn heap) :
    a.IsLooselyCoherent heap := by
  intro b hb hab
  have hau := isUniversal_of_livesIn ha
  have hbu := isUniversal_of_livesIn hb
  rw [looselyEq_plain_iff hplain hau hbu] at hab
  have hbplain : b.isPlain = true := by
    rcases (isSameKey_scalar_iff (isNested_of_isPlain hplain)).mp hab with h | ⟨_, _, _, h, _⟩
    · exact isPlain_of_isSame h ▸ hplain
    · exact isPlain_of_measure? h
  rcases isSameKey_of_scalar (isNested_of_isPlain hplain) hab with ⟨hsymm, htrans⟩
  refine ⟨(looselyEq_plain_iff hbplain hbu hau).mpr hsymm, fun _ c hc hbc => ?_⟩
  have hcu := isUniversal_of_livesIn hc
  rw [looselyEq_plain_iff hbplain hbu hcu] at hbc
  exact (looselyEq_plain_iff hplain hau hcu).mpr (htrans c hbc)

mutual

/-- What lives in a heap is compared in a coherent way with what does. The induction is on the value
    on the left. -/
theorem isLooselyCoherent_of_livesIn : ∀ a : Value, a.LivesIn heap → a.IsLooselyCoherent heap
  | list _ xs, h =>
      isLooselyCoherent_of_items (fun _ _ _ => looselyEq_list) (fun _ _ h => livesIn_of_mem h.2) id
        h (allLooselyCoherent xs h.2)
  | tuple _ xs, h =>
      isLooselyCoherent_of_items (fun _ _ _ => looselyEq_tuple) (fun _ _ h => livesIn_of_mem h.2) id
        h (allLooselyCoherent xs h.2)
  | applied _ xs, h => isLooselyCoherent_applied h (allLooselyCoherent xs h)
  | dict _ xs, h => isLooselyCoherent_mapping rfl h (entriesLooselyCoherent xs h.2.2) nofun
  | view _ xs, h => isLooselyCoherent_mapping rfl h (entriesLooselyCoherent xs h.2.2) nofun
  | ordered _ xs, h =>
      isLooselyCoherent_mapping rfl h (entriesLooselyCoherent xs h.2.2.1) fun _ =>
        keysLooselyCoherent xs h.2.2.2
  | set _ _, h => isLooselyCoherent_set rfl h
  | frozenSet _ _, h => isLooselyCoherent_set rfl h
  | undefined, h | null, h | bool _, h | int _, h | float .., h | fraction _, h | decimal .., h
  | text _, h | bytes _, h | dateTime _, h | timestamp _, h | date _, h | function .., h
  | callable .., h | builtin _, h | object .., h | exception .., h =>
      isLooselyCoherent_plain rfl h

theorem allLooselyCoherent : ∀ xs : List Value, AllLiveIn heap xs →
    ∀ x ∈ xs, x.IsLooselyCoherent heap
  | [], _ => fun _ hmem => absurd hmem List.not_mem_nil
  | x :: xs, h => List.forall_mem_cons.mpr
      ⟨isLooselyCoherent_of_livesIn x h.1, allLooselyCoherent xs h.2⟩

theorem entriesLooselyCoherent : ∀ xs : List (Value × Value), EntriesLiveIn heap xs →
    ∀ entry ∈ xs, entry.2.IsLooselyCoherent heap
  | [], _ => fun _ hmem => absurd hmem List.not_mem_nil
  | (_, x) :: xs, h => List.forall_mem_cons.mpr
      ⟨isLooselyCoherent_of_livesIn x h.1, entriesLooselyCoherent xs h.2⟩

theorem keysLooselyCoherent : ∀ xs : List (Value × Value), KeysLiveIn heap xs →
    ∀ entry ∈ xs, entry.1.IsLooselyCoherent heap
  | [], _ => fun _ hmem => absurd hmem List.not_mem_nil
  | (key, _) :: xs, h => List.forall_mem_cons.mpr
      ⟨isLooselyCoherent_of_livesIn key h.1, keysLooselyCoherent xs h.2⟩

end

theorem looselyEq_symm (ha : a.LivesIn heap) (hb : b.LivesIn heap) (h : a.LooselyEq b) :
    b.LooselyEq a :=
  (isLooselyCoherent_of_livesIn a ha b hb h).1

theorem looselyEq_trans {c : Value} (ha : a.LivesIn heap) (hfree : a.IsOrderFree)
    (hb : b.LivesIn heap) (hc : c.LivesIn heap) (hab : a.LooselyEq b) (hbc : b.LooselyEq c) :
    a.LooselyEq c :=
  (isLooselyCoherent_of_livesIn a ha b hb hab).2 hfree c hc hbc

mutual

/-- What lives in a heap keeps to what the heap holds. -/
theorem keepsTo_of_livesIn : ∀ a : Value, a.LivesIn heap → a.KeepsTo heap.items
  | tuple _ xs, h => ⟨h.1, allKeepTo_of_allLiveIn xs h.2⟩
  | frozenSet .., h => h
  | applied _ xs, h => allKeepTo_of_allLiveIn xs h
  | undefined, _ | null, _ | bool _, _ | int _, _ | float .., _ | fraction _, _ | decimal .., _
  | text _, _ | bytes _, _ | dateTime _, _ | timestamp _, _ | date _, _ | list .., _ | dict .., _
  | view .., _ | ordered .., _ | set .., _ | function .., _ | callable .., _ | builtin _, _
  | object .., _ | exception .., _ => trivial

theorem allKeepTo_of_allLiveIn : ∀ xs : List Value, AllLiveIn heap xs → AllKeepTo heap.items xs
  | [], _ => trivial
  | x :: xs, h => ⟨keepsTo_of_livesIn x h.1, allKeepTo_of_allLiveIn xs h.2⟩

end

theorem allHashable_iff : allHashable xs = .ok () ↔ ∀ x ∈ xs, x.hashable = .ok () := by
  induction xs with
  | nil => exact ⟨fun _ x hmem => absurd hmem List.not_mem_nil, fun _ => rfl⟩
  | cons x xs ih =>
      rw [List.forall_mem_cons, ← ih, allHashable]
      rcases x.hashable with f | ⟨⟩
      · simp only [bind, Except.bind, reduceCtorEq, false_and]
      · simp only [bind, Except.bind, true_and]

mutual

/-- Of what may be a key, one object or what is loosely equal is the same key, and nothing else.
    The induction is on the value on the left, as both comparisons go into it alike. -/
theorem looselyEq_iff_isSameKey : ∀ a : Value, a.LivesIn heap → a.hashable = .ok () →
    ∀ b : Value, b.LivesIn heap → b.hashable = .ok () → (a.LooselyEq b ↔ a.isSameKey b = true)
  | tuple i xs, ha, hkey, b, hb, hother => by
      rw [looselyEq_tuple_iff (isUniversal_of_livesIn hb), isSameKey_tuple_iff]
      refine exists_congr fun j => exists_congr fun ys => and_congr_right ?_
      rintro rfl
      rw [itemsLooselyEq_iff_areSameKeys xs ha.2 (allHashable_iff.mp hkey) ys hb.2
        (allHashable_iff.mp hother)]
  | applied c xs, ha, hkey, b, hb, hother => by
      rw [looselyEq_applied_iff (isUniversal_of_livesIn hb), isSameKey_applied_iff]
      refine exists_congr fun ys => and_congr_right ?_
      rintro rfl
      rw [itemsLooselyEq_iff_areSameKeys xs ha (allHashable_iff.mp hkey) ys hb
        (allHashable_iff.mp hother)]
  | frozenSet i xs, ha, _, b, hb, hother => by
      rw [looselyEq_set rfl ha hb]
      cases b with
      | frozenSet => exact ⟨fun ⟨_, _, h⟩ => h, fun h => ⟨_, rfl, h⟩⟩
      | set => exact absurd hother (by simp only [hashable, reduceCtorEq, not_false_eq_true])
      | _ =>
          refine iff_of_false ?_ Bool.false_ne_true
          simp only [members?, reduceCtorEq, false_and, exists_false, not_false_eq_true]
  | list .., _, hkey, _, _, _ | dict .., _, hkey, _, _, _ | view .., _, hkey, _, _, _
  | ordered .., _, hkey, _, _, _ | set .., _, hkey, _, _, _ =>
      absurd hkey (by simp only [hashable, reduceCtorEq, not_false_eq_true])
  | undefined, ha, _, _, hb, _ | null, ha, _, _, hb, _ | bool _, ha, _, _, hb, _
  | int _, ha, _, _, hb, _ | float .., ha, _, _, hb, _ | fraction _, ha, _, _, hb, _
  | decimal .., ha, _, _, hb, _ | text _, ha, _, _, hb, _ | bytes _, ha, _, _, hb, _
  | dateTime _, ha, _, _, hb, _ | timestamp _, ha, _, _, hb, _ | date _, ha, _, _, hb, _
  | function .., ha, _, _, hb, _ | callable .., ha, _, _, hb, _ | builtin _, ha, _, _, hb, _
  | object .., ha, _, _, hb, _ | exception .., ha, _, _, hb, _ =>
      looselyEq_plain_iff rfl (isUniversal_of_livesIn ha) (isUniversal_of_livesIn hb)

theorem itemsLooselyEq_iff_areSameKeys : ∀ xs : List Value, AllLiveIn heap xs →
    (∀ x ∈ xs, x.hashable = .ok ()) → ∀ ys : List Value, AllLiveIn heap ys →
    (∀ y ∈ ys, y.hashable = .ok ()) → (List.Forall₂ LooselyEq xs ys ↔
      List.Forall₂ (fun x y => x.isSameKey y = true) xs ys)
  | [], _, _, ys, _, _ => by
      cases ys with
      | nil => exact ⟨fun _ => .nil, fun _ => .nil⟩
      | cons => exact iff_of_false nofun nofun
  | x :: xs, hxs, hkeys, ys, hys, hothers => by
      cases ys with
      | nil => exact iff_of_false nofun nofun
      | cons y ys =>
          rcases List.forall_mem_cons.mp hkeys with ⟨hkey, hkeys⟩
          rcases List.forall_mem_cons.mp hothers with ⟨hother, hothers⟩
          rw [List.forall₂_cons, List.forall₂_cons,
            looselyEq_iff_isSameKey x hxs.1 hkey y hys.1 hother,
            itemsLooselyEq_iff_areSameKeys xs hxs.2 hkeys ys hys.2 hothers]

end

end Living

end Value

end Attest
