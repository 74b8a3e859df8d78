import Mathlib.Data.List.Forall2
import Attest.Proofs.Worth
import Attest.Value.Key

/-!
# Equality of Keys

Being the same key is symmetric and transitive, so that a mapping can be read by any spelling of
a key.

Scalars are the same key if they are one object or have measures that agree, and both of these are
symmetric and transitive. Tuples are compared place by place, and frozen sets by looking for a
partner of each member. That every member of the other set is then the partner of one takes
transitivity already, because it rests on no two members sharing a partner. The two laws are
therefore proved together, by one induction over the first value.

That being one object is symmetric and transitive is read off `stub`, which keeps of a value what
the comparison of objects looks at. Two values are one object if they have one stub, and all that
can be told from the stub is the same of both.

Tuples and frozen sets are also the same key if they are one object. That this is no more than it
should be is a property of the values at hand and not of the comparison: what has one identity must
hold the same things. `KeepsTo` says so by way of a store, in which an identity can be looked up.

## Main definitions

* `Value.stub`: What of a value counts where it is compared as an object.
* `Value.KeepsTo`: What a value holds under an identity is what the store has there.
* `Value.IsCoherent`: A value is the same key as others in a symmetric and transitive way.
* `Entries.IsMapping`: Entries under keys that keep to a store and are different.

## Theorems

* `isSame_symm`, `isSame_trans`, `eq_of_isSame`: The laws of being one object.
* `isSameKey_scalar_iff`: When scalars are the same key.
* `exists_partner`: If each member has a partner of its own, no partner is left over.
* `isCoherent_of_keepsTo`: What keeps to a store is compared in a coherent way.
* `isSameKey_symm`, `isSameKey_trans`: Being the same key is symmetric and transitive.
* `find?_of_isSameKey`: A mapping gives back what it stores, whatever the spelling of the key.
-/

namespace Attest

namespace Value

/-- Whether a value is compared by what it holds, unless it is the same object. -/
def isNested : Value → Bool
  | tuple .. | frozenSet .. | applied .. => true
  | _ => false

/-- What of a value counts where it is compared as an object. Of what has an identity that is no
    more than the identity, and of a tuple only whether it is empty, as all empty tuples are one
    object. -/
def stub : Value → Value
  | list i _ => list i []
  | tuple i xs =>
      tuple (if xs.isEmpty then default else i) (if xs.isEmpty then [] else [undefined])
  | dict i _ => dict i []
  | view i _ => view i []
  | ordered i _ => ordered i []
  | set i _ => set i []
  | frozenSet i _ => frozenSet i []
  | function i _ => function i default
  | callable i _ => callable i default
  | object i _ _ => object i (.text "") default
  | exception i _ _ => exception i default []
  | v => v

section Scalars

variable {a b c : Value}

theorem isSame_stub (a b : Value) : a.stub.isSame b = a.isSame b := by
  cases a with
  | tuple _ xs => cases xs <;> cases b <;> rfl
  | list | dict | view | ordered | set | frozenSet | function | callable | object | exception =>
      cases b <;> rfl
  | _ => rfl

/-- A value is one object with itself. Only classes that are told what they hold are made anew each
    time. -/
theorem isSame_self (h : ∀ c items, a ≠ applied c items) : a.isSame a = true := by
  cases a with
  | applied c items => exact absurd rfl (h c items)
  | undefined | null => rfl
  | float | decimal => exact Bool.and_eq_true_iff.mpr ⟨decide_eq_true rfl, decide_eq_true rfl⟩
  | tuple i items =>
      cases items with
      | nil => rfl
      | cons => exact decide_eq_true rfl
  | _ => exact decide_eq_true rfl

theorem stub_eq_of_isSame (h : a.isSame b = true) : a.stub = b.stub := by
  unfold isSame at h
  split at h
  case h_14 xs _ ys => cases xs <;> cases ys <;> simp_all [stub]
  all_goals
    first
      | exact absurd h Bool.false_ne_true
      | simp only [Bool.and_eq_true, decide_eq_true_eq] at h
        simp only [stub, h]

theorem isSame_symm (h : a.isSame b = true) : b.isSame a = true := by
  rw [← isSame_stub, ← stub_eq_of_isSame h, isSame_stub]
  refine isSame_self ?_
  rintro c items rfl
  exact absurd h Bool.false_ne_true

theorem isSame_trans (hab : a.isSame b = true) (hbc : b.isSame c = true) : a.isSame c = true := by
  rwa [← isSame_stub, stub_eq_of_isSame hab, isSame_stub]

/-- What can be told from the stub of a value is told alike of one object. -/
theorem eq_of_isSame {α : Type} {f : Value → α} (hf : ∀ v : Value, f v.stub = f v)
    (h : a.isSame b = true) : f a = f b := by
  rw [← hf a, stub_eq_of_isSame h, hf b]

theorem measure?_of_isSame (h : a.isSame b = true) : a.measure? = b.measure? :=
  eq_of_isSame (fun v => by cases v <;> rfl) h

theorem isNested_of_isSame (h : a.isSame b = true) : a.isNested = b.isNested :=
  eq_of_isSame (fun v => by cases v <;> rfl) h

theorem isNested_of_measure? {m : Measure} (h : a.measure? = some m) : a.isNested = false := by
  cases a with
  | tuple | frozenSet | applied => exact absurd h (by simp [measure?, number?, worth?])
  | _ => rfl

theorem eq_of_instant {t : DateTime} (h : a.measure? = some (.instant t)) :
    a = dateTime t ∨ a = timestamp t := by
  cases a with
  | dateTime | timestamp => simpa [measure?] using h
  | _ => exact absurd h (by simp [measure?, number?, worth?])

/-- Scalars are the same key if they are one object or their measures agree. -/
theorem isSameKey_scalar_iff (ha : a.isNested = false) :
    a.isSameKey b = true ↔ a.isSame b = true ∨ a.Agree b := by
  have hbeq : ∀ t : DateTime, t.beq t = true := fun t => by simp [DateTime.beq]
  rw [agree_iff]
  unfold isSameKey
  split
  · simp [isSame, sameWorth, measure?, number?, worth?]
  · simp [isSame, sameWorth, measure?, number?, worth?]
  · next s t =>
      refine ⟨fun h => Or.inr (Or.inr ⟨s, t, rfl, rfl, h⟩), ?_⟩
      simp only [isSame, sameWorth, worth?, measure?, decide_eq_true_eq, Bool.false_eq_true,
        Option.some.injEq, Measure.instant.injEq, false_or]
      rintro (rfl | ⟨_, _, rfl, rfl, h⟩)
      · exact hbeq s
      · exact h
  · simp [isSame, sameWorth, worth?, measure?]
  · simp [isSame, sameWorth, worth?, measure?]
  · next s t =>
      refine ⟨fun h => Or.inr (Or.inr ⟨s, t, rfl, rfl, h⟩), ?_⟩
      simp only [isSame, sameWorth, worth?, measure?, decide_eq_true_eq, Bool.false_eq_true,
        Option.some.injEq, Measure.instant.injEq, false_or]
      rintro (rfl | ⟨_, _, rfl, rfl, h⟩)
      · exact hbeq s
      · exact h
  · simp [isSame, sameWorth, measure?, number?, worth?]
  · exact absurd ha (by simp [isNested])
  · exact absurd ha (by simp [isNested])
  · exact absurd ha (by simp [isNested])
  · next hss hst hts htt _ _ _ _ =>
      rw [Bool.or_eq_true]
      refine or_congr_right (iff_self_or.mpr ?_)
      rintro ⟨s, t, hs, ht, _⟩
      -- Points in time have been compared before.
      rcases eq_of_instant hs with rfl | rfl
      · rcases eq_of_instant ht with rfl | rfl
        · exact (hss s t rfl rfl).elim
        · exact (hst s t rfl rfl).elim
      · rcases eq_of_instant ht with rfl | rfl
        · exact (hts s t rfl rfl).elim
        · exact (htt s t rfl rfl).elim

/-- Being the same key as a scalar is symmetric and transitive. -/
theorem isSameKey_of_scalar (ha : a.isNested = false) (hab : a.isSameKey b = true) :
    b.isSameKey a = true ∧ ∀ c, b.isSameKey c = true → a.isSameKey c = true := by
  rw [isSameKey_scalar_iff ha] at hab
  have hb : b.isNested = false := by
    rcases hab with hsame | ⟨_, _, _, hmeasure, _⟩
    · rw [← isNested_of_isSame hsame, ha]
    · exact isNested_of_measure? hmeasure
  refine ⟨?_, fun c hbc => ?_⟩
  · rw [isSameKey_scalar_iff hb]
    exact hab.imp isSame_symm Agree.symm
  · rw [isSameKey_scalar_iff hb] at hbc
    rw [isSameKey_scalar_iff ha]
    rcases hab with hsame | hagree
    · rcases hbc with hsame' | ⟨m, n, hmeasure, hrest⟩
      · exact Or.inl (isSame_trans hsame hsame')
      · exact Or.inr ⟨m, n, measure?_of_isSame hsame ▸ hmeasure, hrest⟩
    · rcases hbc with hsame' | hagree'
      · rcases hagree with ⟨m, n, hmeasure, hother, hrest⟩
        exact Or.inr ⟨m, n, hmeasure, measure?_of_isSame hsame' ▸ hother, hrest⟩
      · exact Or.inr (hagree.trans hagree')

end Scalars

section Nested

variable {a b : Value} {i j : Identity} {xs ys : List Value}

theorem isSameKey_tuple : (tuple i xs).isSameKey (tuple j ys) =
    ((i = j && !xs.isEmpty && !ys.isEmpty) || areSameKeys xs ys) :=
  rfl

theorem isSameKey_frozenSet : (frozenSet i xs).isSameKey (frozenSet j ys) =
    (i = j || (xs.length = ys.length && areKeysOf xs ys)) :=
  rfl

theorem isSameKey_applied (c d : BuiltinClass) :
    (applied c xs).isSameKey (applied d ys) = (c = d && areSameKeys xs ys) :=
  rfl

theorem areSameKeys_iff : areSameKeys xs ys = true ↔
    List.Forall₂ (fun x y => x.isSameKey y = true) xs ys := by
  induction xs generalizing ys with
  | nil => cases ys <;> simp [areSameKeys]
  | cons x xs ih =>
      cases ys with
      | nil => simp [areSameKeys]
      | cons y ys => rw [areSameKeys, Bool.and_eq_true, ih, List.forall₂_cons]

theorem areKeysOf_iff : areKeysOf xs ys = true ↔ ∀ x ∈ xs, ∃ y ∈ ys, x.isSameKey y = true := by
  induction xs with
  | nil => simp [areKeysOf]
  | cons x xs ih => rw [areKeysOf, Bool.and_eq_true, ih, List.any_eq_true, List.forall_mem_cons]

theorem isSameKey_tuple_iff : (tuple i xs).isSameKey b = true ↔ ∃ j ys, b = tuple j ys ∧
    ((i = j ∧ xs ≠ [] ∧ ys ≠ []) ∨ List.Forall₂ (fun x y => x.isSameKey y = true) xs ys) := by
  cases b with
  | tuple j ys => simp [isSameKey_tuple, areSameKeys_iff, and_assoc]
  | _ =>
      simp only [reduceCtorEq, false_and, exists_false, iff_false]
      exact Bool.false_ne_true

theorem isSameKey_frozenSet_iff : (frozenSet i xs).isSameKey b = true ↔ ∃ j ys, b = frozenSet j ys ∧
    (i = j ∨ (xs.length = ys.length ∧ ∀ x ∈ xs, ∃ y ∈ ys, x.isSameKey y = true)) := by
  cases b with
  | frozenSet j ys => simp [isSameKey_frozenSet, areKeysOf_iff]
  | _ =>
      simp only [reduceCtorEq, false_and, exists_false, iff_false]
      exact Bool.false_ne_true

theorem isSameKey_applied_iff {c : BuiltinClass} : (applied c xs).isSameKey b = true ↔
    ∃ ys, b = applied c ys ∧ List.Forall₂ (fun x y => x.isSameKey y = true) xs ys := by
  cases b with
  | applied d ys => simp [isSameKey_applied, areSameKeys_iff, eq_comm (a := c)]
  | _ =>
      simp only [reduceCtorEq, false_and, exists_false, iff_false]
      exact Bool.false_ne_true

end Nested

mutual

/-- A value keeps to a store: what it holds under an identity is what is stored there, and no two
    members of a frozen set are the same key. Empty tuples need no identity. -/
def KeepsTo (store : Identity → List Value) : Value → Prop
  | tuple id items => (items ≠ [] → store id = items) ∧ AllKeepTo store items
  | frozenSet id items => store id = items ∧
      items.Pairwise (fun x y => x.isSameKey y = false) ∧ AllKeepTo store items
  | applied _ items => AllKeepTo store items
  | _ => True

/-- All of the values keep to a store. -/
def AllKeepTo (store : Identity → List Value) : List Value → Prop
  | [] => True
  | v :: vs => KeepsTo store v ∧ AllKeepTo store vs

end

/-- A value is the same key as those that keep to a store in a symmetric and transitive way. -/
def IsCoherent (store : Identity → List Value) (a : Value) : Prop :=
  ∀ b, b.KeepsTo store → a.isSameKey b = true →
    b.isSameKey a = true ∧ ∀ c, c.KeepsTo store → b.isSameKey c = true → a.isSameKey c = true

section Coherence

variable {store : Identity → List Value} {xs ys zs : List Value}

theorem keepsTo_of_mem (h : AllKeepTo store xs) : ∀ x ∈ xs, x.KeepsTo store := by
  induction xs with
  | nil => exact fun x hmem => absurd hmem List.not_mem_nil
  | cons x xs ih => exact List.forall_mem_cons.mpr ⟨h.1, ih h.2⟩

/-- Lists that correspond do so the other way round if their members do. -/
theorem forall₂_symm_of {α : Type} {R : α → α → Prop} {xs ys : List α}
    (hR : ∀ x ∈ xs, ∀ y ∈ ys, R x y → R y x) (h : List.Forall₂ R xs ys) : List.Forall₂ R ys xs := by
  induction h with
  | nil => exact .nil
  | cons hxy _ ih =>
      refine .cons (hR _ List.mem_cons_self _ List.mem_cons_self hxy) (ih fun x hx y hy => ?_)
      exact hR x (List.mem_cons_of_mem _ hx) y (List.mem_cons_of_mem _ hy)

theorem forall₂_trans_of {R : Value → Value → Prop}
    (hR : ∀ x ∈ xs, ∀ y ∈ ys, ∀ z ∈ zs, R x y → R y z → R x z) (hxy : List.Forall₂ R xs ys)
    (hyz : List.Forall₂ R ys zs) : List.Forall₂ R xs zs := by
  induction hxy generalizing zs with
  | nil =>
      cases hyz
      exact .nil
  | cons hhere _ ih =>
      cases hyz with
      | cons hthere hyz =>
          refine .cons (hR _ List.mem_cons_self _ List.mem_cons_self _ List.mem_cons_self hhere
            hthere) (ih (fun x hx y hy z hz => ?_) hyz)
          exact hR x (List.mem_cons_of_mem _ hx) y (List.mem_cons_of_mem _ hy) z
            (List.mem_cons_of_mem _ hz)

theorem forall₂_symm (hxs : ∀ x ∈ xs, x.IsCoherent store) (hys : ∀ y ∈ ys, y.KeepsTo store)
    (h : List.Forall₂ (fun x y => x.isSameKey y = true) xs ys) :
    List.Forall₂ (fun y x => y.isSameKey x = true) ys xs :=
  forall₂_symm_of (fun x hx y hy hxy => (hxs x hx y (hys y hy) hxy).1) h

theorem forall₂_trans (hxs : ∀ x ∈ xs, x.IsCoherent store) (hys : ∀ y ∈ ys, y.KeepsTo store)
    (hzs : ∀ z ∈ zs, z.KeepsTo store)
    (hxy : List.Forall₂ (fun x y => x.isSameKey y = true) xs ys)
    (hyz : List.Forall₂ (fun y z => y.isSameKey z = true) ys zs) :
    List.Forall₂ (fun x z => x.isSameKey z = true) xs zs :=
  forall₂_trans_of (fun x hx y hy z hz hhere => (hxs x hx y (hys y hy) hhere).2 z (hzs z hz))
    hxy hyz

/-- If there are no more partners than members, and each member has a partner that no other member
    has, then no partner is left over. -/
theorem exists_partner {α β : Type} {R : α → β → Prop} {xs : List α} {ys : List β}
    (hlength : ys.length ≤ xs.length)
    (hpartner : ∀ x ∈ xs, ∃ y ∈ ys, R x y)
    (hown : xs.Pairwise fun x x' => ∀ y ∈ ys, R x y → ¬ R x' y) :
    ∀ y ∈ ys, ∃ x ∈ xs, R x y := by
  induction xs generalizing ys with
  | nil =>
      intro y hmem
      rw [List.length_nil, Nat.le_zero, List.length_eq_zero_iff] at hlength
      exact absurd (hlength ▸ hmem) List.not_mem_nil
  | cons x xs ih =>
      rcases List.forall_mem_cons.mp hpartner with ⟨⟨first, hfirst, hR⟩, hpartner⟩
      rcases List.append_of_mem hfirst with ⟨front, back, rfl⟩
      rw [List.pairwise_cons] at hown
      -- The partner of the first member is taken out on both sides.
      have hrest : ∀ y ∈ front ++ back, ∃ x' ∈ xs, R x' y := by
        refine ih ?_ (fun x' hx' => ?_) (hown.2.imp fun h y hy => h y ?_)
        · simp only [List.length_append, List.length_cons] at hlength ⊢
          omega
        · rcases hpartner x' hx' with ⟨y, hy, hRy⟩
          refine ⟨y, ?_, hRy⟩
          rcases List.mem_append.mp hy with hy | hy
          · exact List.mem_append_left _ hy
          · rcases List.mem_cons.mp hy with rfl | hy
            · exact absurd hRy (hown.1 x' hx' y hfirst hR)
            · exact List.mem_append_right _ hy
        · rw [List.mem_append, List.mem_cons]
          exact (List.mem_append.mp hy).imp_right Or.inr
      intro y hy
      rw [List.mem_append, List.mem_cons] at hy
      rcases hy with hy | rfl | hy
      · rcases hrest y (List.mem_append_left _ hy) with ⟨x', hx', hRy⟩
        exact ⟨x', List.mem_cons_of_mem _ hx', hRy⟩
      · exact ⟨x, List.mem_cons_self, hR⟩
      · rcases hrest y (List.mem_append_right _ hy) with ⟨x', hx', hRy⟩
        exact ⟨x', List.mem_cons_of_mem _ hx', hRy⟩

/-- Different keys have different partners. -/
theorem partners_differ (hxs : ∀ x ∈ xs, x.IsCoherent store) (hkept : ∀ x ∈ xs, x.KeepsTo store)
    (hys : ∀ y ∈ ys, y.KeepsTo store) (h : xs.Pairwise fun x x' => x.isSameKey x' = false) :
    xs.Pairwise fun x x' => ∀ y ∈ ys, x.isSameKey y = true → ¬ x'.isSameKey y = true := by
  refine h.imp_of_mem fun {x x'} hx hx' hdiffer y hy hxy hx'y => ?_
  have hback : y.isSameKey x' = true := (hxs x' hx' y (hys y hy) hx'y).1
  exact absurd ((hxs x hx y (hys y hy) hxy).2 x' (hkept x' hx') hback)
    (by rw [hdiffer]; exact Bool.false_ne_true)

theorem isCoherent_tuple {i : Identity} (hkept : (tuple i xs).KeepsTo store)
    (hxs : ∀ x ∈ xs, x.IsCoherent store) : (tuple i xs).IsCoherent store := by
  intro b hb hab
  rcases isSameKey_tuple_iff.mp hab with ⟨j, ys, rfl, hxy⟩
  have hys := keepsTo_of_mem hb.2
  refine ⟨isSameKey_tuple_iff.mpr ⟨i, xs, rfl, ?_⟩, fun c hc hbc => ?_⟩
  · exact hxy.imp (fun h => ⟨h.1.symm, h.2.2, h.2.1⟩) (forall₂_symm hxs hys)
  · rcases isSameKey_tuple_iff.mp hbc with ⟨k, zs, rfl, hyz⟩
    refine isSameKey_tuple_iff.mpr ⟨k, zs, rfl, ?_⟩
    rcases hxy with ⟨rfl, hx, hy⟩ | hxy
    · -- One object holds the same items in both.
      rw [← hkept.1 hx, hb.1 hy]
      exact hyz
    · rcases hyz with ⟨rfl, hy, hz⟩ | hyz
      · rw [← hc.1 hz, hb.1 hy]
        exact Or.inr hxy
      · exact Or.inr (forall₂_trans hxs hys (keepsTo_of_mem hc.2) hxy hyz)

theorem isCoherent_frozenSet {i : Identity} (hkept : (frozenSet i xs).KeepsTo store)
    (hxs : ∀ x ∈ xs, x.IsCoherent store) : (frozenSet i xs).IsCoherent store := by
  intro b hb hab
  rcases isSameKey_frozenSet_iff.mp hab with ⟨j, ys, rfl, hxy⟩
  have hys := keepsTo_of_mem hb.2.2
  refine ⟨isSameKey_frozenSet_iff.mpr ⟨i, xs, rfl, ?_⟩, fun c hc hbc => ?_⟩
  · rcases hxy with rfl | ⟨hlength, hxy⟩
    · exact Or.inl rfl
    · refine Or.inr ⟨hlength.symm, fun y hy => ?_⟩
      have hown := partners_differ hxs (keepsTo_of_mem hkept.2.2) hys hkept.2.1
      rcases exists_partner hlength.ge hxy hown y hy with ⟨x, hx, hxy⟩
      exact ⟨x, hx, (hxs x hx y (hys y hy) hxy).1⟩
  · rcases isSameKey_frozenSet_iff.mp hbc with ⟨k, zs, rfl, hyz⟩
    refine isSameKey_frozenSet_iff.mpr ⟨k, zs, rfl, ?_⟩
    rcases hxy with rfl | ⟨hlength, hxy⟩
    · rw [← hkept.1, hb.1]
      exact hyz
    · rcases hyz with rfl | ⟨hlength', hyz⟩
      · rw [← hc.1, hb.1]
        exact Or.inr ⟨hlength, hxy⟩
      · refine Or.inr ⟨hlength.trans hlength', fun x hx => ?_⟩
        rcases hxy x hx with ⟨y, hy, hxy⟩
        rcases hyz y hy with ⟨z, hz, hyz⟩
        exact ⟨z, hz, (hxs x hx y (hys y hy) hxy).2 z (keepsTo_of_mem hc.2.2 z hz) hyz⟩

theorem isCoherent_applied {t : BuiltinClass} (hxs : ∀ x ∈ xs, x.IsCoherent store) :
    (applied t xs).IsCoherent store := by
  intro b hb hab
  rcases isSameKey_applied_iff.mp hab with ⟨ys, rfl, hxy⟩
  have hys := keepsTo_of_mem hb
  refine ⟨isSameKey_applied_iff.mpr ⟨xs, rfl, forall₂_symm hxs hys hxy⟩, fun c hc hbc => ?_⟩
  rcases isSameKey_applied_iff.mp hbc with ⟨zs, rfl, hyz⟩
  exact isSameKey_applied_iff.mpr ⟨zs, rfl, forall₂_trans hxs hys (keepsTo_of_mem hc) hxy hyz⟩

theorem isCoherent_scalar {a : Value} (ha : a.isNested = false) : a.IsCoherent store :=
  fun _ _ hab => (isSameKey_of_scalar ha hab).imp_right fun htrans c _ => htrans c

mutual

/-- What keeps to a store is compared with what does in a coherent way. The induction is on the
    value on the left, which is the one whose members look for partners. -/
theorem isCoherent_of_keepsTo : ∀ (a : Value), a.KeepsTo store → a.IsCoherent store
  | tuple _ xs, h => isCoherent_tuple h (allCoherent_of_allKeepTo xs h.2)
  | frozenSet _ xs, h => isCoherent_frozenSet h (allCoherent_of_allKeepTo xs h.2.2)
  | applied _ xs, h => isCoherent_applied (allCoherent_of_allKeepTo xs h)
  | undefined, _ | null, _ | bool _, _ | int _, _ | float .., _ | fraction _, _ | decimal .., _
  | text _, _ | bytes _, _ | dateTime _, _ | timestamp _, _ | date _, _ | list .., _ | dict .., _
  | view .., _ | ordered .., _ | set .., _ | function .., _ | callable .., _ | builtin _, _
  | object .., _ | exception .., _ => isCoherent_scalar rfl

theorem allCoherent_of_allKeepTo : ∀ (xs : List Value), AllKeepTo store xs →
    ∀ x ∈ xs, x.IsCoherent store
  | [], _ => fun _ hmem => absurd hmem List.not_mem_nil
  | x :: xs, h => List.forall_mem_cons.mpr
      ⟨isCoherent_of_keepsTo x h.1, allCoherent_of_allKeepTo xs h.2⟩

end

variable {a b c : Value}

theorem isSameKey_symm (ha : a.KeepsTo store) (hb : b.KeepsTo store)
    (h : a.isSameKey b = true) : b.isSameKey a = true :=
  (isCoherent_of_keepsTo a ha b hb h).1

theorem isSameKey_trans (ha : a.KeepsTo store) (hb : b.KeepsTo store) (hc : c.KeepsTo store)
    (hab : a.isSameKey b = true) (hbc : b.isSameKey c = true) : a.isSameKey c = true :=
  (isCoherent_of_keepsTo a ha b hb hab).2 c hc hbc

end Coherence

end Value

namespace Entries

variable {store : Identity → List Value} {entries : List (Value × Value)}

/-- Entries as they are found in a mapping: under keys that keep to a store and are different. -/
structure IsMapping (store : Identity → List Value) (entries : List (Value × Value)) : Prop where
  /-- The keys keep to the store. -/
  kept : ∀ entry ∈ entries, entry.1.KeepsTo store
  /-- No key comes twice. -/
  distinct : entries.Pairwise fun entry later => entry.1.isSameKey later.1 = false

/-- A mapping gives back what it stores under a key, whatever the spelling of the key. -/
theorem find?_of_isSameKey (h : IsMapping store entries) {key : Value} (hkey : key.KeepsTo store)
    {entry : Value × Value} (hmem : entry ∈ entries) (hsame : key.isSameKey entry.1 = true) :
    find? entries key = some entry.2 := by
  have hentry : entry.1.KeepsTo store := h.kept entry hmem
  induction entries with
  | nil => exact absurd hmem List.not_mem_nil
  | cons first entries ih =>
      rcases List.forall_mem_cons.mp h.kept with ⟨hfirst, hkept⟩
      rcases List.pairwise_cons.mp h.distinct with ⟨hdiffer, hdistinct⟩
      unfold find?
      rcases List.mem_cons.mp hmem with rfl | hmem
      · have hmet : entry.1.isSameKey key = true := Value.isSameKey_symm hkey hentry hsame
        simp only [List.find?_cons, hmet, Option.map_some]
      · -- A key that is met before would be the one that is looked for.
        have hother : first.1.isSameKey key = false := by
          refine Bool.eq_false_iff.mpr fun hmet => ?_
          have hsame' := Value.isSameKey_trans hfirst hkey hentry hmet hsame
          rw [hdiffer entry hmem] at hsame'
          exact Bool.false_ne_true hsame'
        simp only [List.find?_cons, hother]
        exact ih ⟨hkept, hdistinct⟩ hmem

end Entries

end Attest
