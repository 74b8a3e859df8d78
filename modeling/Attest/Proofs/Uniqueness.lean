import Attest.Probe
import Attest.Proofs.Lengths
import Attest.Proofs.Noninterference
import Attest.Proofs.StrictEquality

/-!
# Uniqueness by Identity

Which arrays have unique elements, and what is asked to find out.

The loop goes through the elements once. It keeps the identities that it has met and compares the
next one with all of them, so what it knows is a fact about each element and the ones in front of
it, in terms of a comparison of keys. What is asked of an array is a fact about any two of its
positions, and does not depend on their order. `uniqueAfter_eq` is the step from the one to the
other. Its invariant is that the identities that have been met are those of the elements in front,
and that no two of these are the same key. An element whose identity was met breaks it, and then the
loop is over; if it is never broken, it is at the end what was asked.

That the order makes no difference takes the comparison of keys to be symmetric, which rests on what
has one identity holding the same things.

An array of one element or none is not gone through at all, and the answer is the same. Within the
check of an array, all of this comes behind its length, and is over before the first element is
checked.

## Main definitions

* `Identifies`: An identity gives each element of an array a key.
* `KeysDiffer`: No two elements have the same identity.
* `IsFirstRepeat`: The first element with the identity of an earlier one.
* `asking`: The calls that are made when elements are asked for their identity.

## Theorems

* `uniqueAfter_eq`: What the loop comes to.
* `hasUniqueElements_eq`: What the check comes to, and what it asks.
* `KeysDiffer.of_perm`: The order of the elements makes no difference.
* `assertArray_of_identity`: Where the check stands among those of an array.
* `hasUniqueElements_exact`: The check is exact, asks each element at most once and in order, and
  does not depend on the order; no element is checked before it is over.
-/

namespace Attest

/-- An identity gives each element of an array a key. -/
structure Identifies (factory : ErrorFactory) (identity : Value → Check Value)
    (keyOf : Value → Value) (items : List Value) : Prop where
  /-- The identity has an answer. -/
  answers : ∀ item ∈ items, (identity item factory).result = .ok (keyOf item)
  /-- The answer may be a key. -/
  hashable : ∀ item ∈ items, (keyOf item).hashable = .ok ()

/-- No two elements have the same identity. -/
def KeysDiffer (keyOf : Value → Value) (items : List Value) : Prop :=
  items.Pairwise fun item later => (keyOf item).isSameKey (keyOf later) = false

/-- An element is the first one that has the identity of an earlier one, and these elements are in
    front of it. -/
def IsFirstRepeat (keyOf : Value → Value) (items before : List Value) (item : Value) : Prop :=
  ∃ behind, items = before ++ item :: behind ∧ KeysDiffer keyOf before ∧
    ∃ earlier ∈ before, (keyOf earlier).isSameKey (keyOf item) = true

/-- The calls that are made when elements are asked for their identity, one after another. -/
def asking (identity : Value → Check Value) (factory : ErrorFactory) (items : List Value) :
    List Event :=
  items.flatMap fun item => (identity item factory).trace

namespace Value

/-- What is a key is looked for as it is. -/
theorem isMember_of_hashable {key : Value} (h : key.hashable = .ok ()) (seen : List Value) :
    isMember seen key = .ok (seen.any (isSameKey · key)) := by
  have hsought : key.sought = key := by
    cases key with
    | set => exact absurd h (by simp only [hashable, reduceCtorEq, not_false_eq_true])
    | _ => rfl
  unfold isMember
  rw [hsought, h]
  rfl

end Value

section Loop

variable {factory : ErrorFactory} {identity : Value → Check Value} {keyOf : Value → Value}
  {front items : List Value}

theorem KeysDiffer.concat {item : Value} (hfront : KeysDiffer keyOf front)
    (hnew : ∀ earlier ∈ front, (keyOf earlier).isSameKey (keyOf item) = false) :
    KeysDiffer keyOf (front ++ [item]) := by
  refine List.pairwise_append.mpr ⟨hfront, List.pairwise_singleton _ _, fun earlier hmem => ?_⟩
  exact List.forall_mem_singleton.mpr (hnew earlier hmem)

section Step

variable {item : Value} (hanswer : (identity item factory).result = .ok (keyOf item))
  (hkey : (keyOf item).hashable = .ok ()) {seen : List Value}

include hanswer hkey

/-- An identity that was met before ends the loop, and nothing behind the element is asked. -/
theorem uniqueAfter_of_met (hmet : seen.any (Value.isSameKey · (keyOf item)) = true) :
    uniqueAfter identity seen (item :: items) factory =
      ⟨asking identity factory [item], .ok false⟩ := by
  have hitem : identity item factory = ⟨(identity item factory).trace, .ok (keyOf item)⟩ := by
    rw [← hanswer]
  rw [uniqueAfter, Check.bind_apply_ok hitem]
  simp only [Value.isMember_of_hashable hkey, hmet, Check.ofExcept_ok, pure_bind, if_true,
    Check.pure_apply, asking, List.flatMap_singleton, List.append_nil]

theorem uniqueAfter_of_new (hnew : seen.any (Value.isSameKey · (keyOf item)) = false) :
    uniqueAfter identity seen (item :: items) factory =
      ⟨asking identity factory [item] ++
        (uniqueAfter identity (keyOf item :: seen) items factory).trace,
      (uniqueAfter identity (keyOf item :: seen) items factory).result⟩ := by
  have hitem : identity item factory = ⟨(identity item factory).trace, .ok (keyOf item)⟩ := by
    rw [← hanswer]
  rw [uniqueAfter, Check.bind_apply_ok hitem]
  simp only [Value.isMember_of_hashable hkey, hnew, hkey, Check.ofExcept_ok, pure_bind,
    Bool.false_eq_true, if_false, asking, List.flatMap_singleton]

end Step

/-- The loop goes on to the first element that has the identity of an earlier one. The induction is
    on the elements that are left. The identities met so far are those of the elements in front, the
    last one first, and no two of them are the same key. -/
theorem uniqueAfter_eq (h : Identifies factory identity keyOf items)
    (hfront : KeysDiffer keyOf front) :
    (KeysDiffer keyOf (front ++ items) ∧
      uniqueAfter identity (front.map keyOf).reverse items factory =
        ⟨asking identity factory items, .ok true⟩) ∨
    ∃ before item, IsFirstRepeat keyOf (front ++ items) (front ++ before) item ∧
      uniqueAfter identity (front.map keyOf).reverse items factory =
        ⟨asking identity factory (before ++ [item]), .ok false⟩ := by
  induction items generalizing front with
  | nil => exact Or.inl ⟨(List.append_nil front).symm ▸ hfront, rfl⟩
  | cons item items ih =>
      rcases List.forall_mem_cons.mp h.answers with ⟨hanswer, hanswers⟩
      rcases List.forall_mem_cons.mp h.hashable with ⟨hkey, hkeys⟩
      have hany : (front.map keyOf).reverse.any (Value.isSameKey · (keyOf item)) =
          front.any fun earlier => (keyOf earlier).isSameKey (keyOf item) := by
        rw [List.any_reverse, List.any_map]
        rfl
      by_cases hmet : ∃ earlier ∈ front, (keyOf earlier).isSameKey (keyOf item) = true
      · -- The invariant would be broken with this element, and so the loop ends with it.
        refine Or.inr ⟨[], item, ?_, ?_⟩
        · rw [List.append_nil]
          exact ⟨items, rfl, hfront, hmet⟩
        · exact uniqueAfter_of_met hanswer hkey (hany.trans (List.any_eq_true.mpr hmet))
      · have hnew : ∀ earlier ∈ front, (keyOf earlier).isSameKey (keyOf item) = false :=
          fun earlier hmem => Bool.eq_false_iff.mpr fun hsame => hmet ⟨earlier, hmem, hsame⟩
        have hnone : (front.map keyOf).reverse.any (Value.isSameKey · (keyOf item)) = false :=
          hany.trans (List.any_eq_false.mpr fun earlier hmem => Bool.eq_false_iff.mp
            (hnew earlier hmem))
        have hseen : keyOf item :: (front.map keyOf).reverse =
            ((front ++ [item]).map keyOf).reverse := by
          rw [List.map_append, List.reverse_append]
          rfl
        rw [uniqueAfter_of_new hanswer hkey hnone, hseen, List.append_cons front item items]
        rcases ih ⟨hanswers, hkeys⟩ (hfront.concat hnew) with
          ⟨hdiffer, hloop⟩ | ⟨before, repeated, hrepeat, hloop⟩
        · rw [hloop]
          exact Or.inl ⟨hdiffer, by simp only [asking, List.flatMap_cons, List.flatMap_nil,
            List.append_nil]⟩
        · rw [hloop]
          refine Or.inr ⟨item :: before, repeated, ?_, ?_⟩
          · rwa [List.append_cons front item before]
          · simp only [asking, List.cons_append, List.flatMap_cons, List.flatMap_nil,
              List.append_nil]

/-- The first repeated identity is one of two that are the same. -/
theorem IsFirstRepeat.not_keysDiffer {before : List Value} {item : Value}
    (h : IsFirstRepeat keyOf items before item) : ¬ KeysDiffer keyOf items := by
  rcases h with ⟨behind, rfl, _, earlier, hmem, hsame⟩
  intro hdiffer
  have hne := (List.pairwise_append.mp hdiffer).2.2 earlier hmem item List.mem_cons_self
  exact Bool.false_ne_true (hne.symm.trans hsame)

/-- If elements have different identities, they do so in every order. They are taken as entries
    under their identities, which is how a mapping would hold them. -/
theorem KeysDiffer.of_perm {store : Identity → List Value} {others : List Value}
    (hkept : ∀ item ∈ items, (keyOf item).KeepsTo store) (hperm : items.Perm others)
    (h : KeysDiffer keyOf items) : KeysDiffer keyOf others := by
  have hmapping : Entries.IsMapping store (items.map fun item => (keyOf item, item)) :=
    ⟨List.forall_mem_map.mpr hkept, List.pairwise_map.mpr h⟩
  exact List.pairwise_map.mp (hmapping.of_perm (hperm.map _)).distinct

theorem keysDiffer_of_short (h : items.length ≤ 1) : KeysDiffer keyOf items := by
  rcases items with _ | ⟨item, _ | ⟨later, items⟩⟩
  · exact .nil
  · exact List.pairwise_singleton _ _
  · exact absurd h (by simp only [List.length_cons]; omega)

variable {v : Value}

/-- The check says whether the identities differ. It asks nobody if there are no two elements, all
    elements if it finds that they differ, and otherwise those up to the first one that has the
    identity of an earlier one. -/
theorem hasUniqueElements_eq (hv : v.array? = some items)
    (h : Identifies factory identity keyOf items) :
    ∃ unique asked, hasUniqueElements v identity factory =
        ⟨asking identity factory asked, .ok unique⟩ ∧
      (unique = true ↔ KeysDiffer keyOf items) ∧
      (items.length ≤ 1 → asked = []) ∧
      (1 < items.length → unique = true → asked = items) ∧
      (unique = false → ∃ before item, IsFirstRepeat keyOf items before item ∧
        asked = before ++ [item]) := by
  rcases Value.elements_of_array hv with ⟨_, hlength, helements⟩
  unfold hasUniqueElements
  simp only [hlength, helements, Check.ofExcept_ok, pure_bind]
  by_cases hshort : items.length ≤ 1
  · rw [if_pos hshort]
    exact ⟨true, [], rfl, iff_of_true rfl (keysDiffer_of_short hshort), fun _ => rfl,
      fun hlong => absurd hlong (Nat.not_lt.mpr hshort), nofun⟩
  · rw [if_neg hshort]
    rcases @uniqueAfter_eq factory identity keyOf [] items h .nil with
      ⟨hdiffer, hloop⟩ | ⟨before, item, hrepeat, hloop⟩
    · exact ⟨true, items, hloop, iff_of_true rfl hdiffer, fun hle => absurd hle hshort,
        fun _ _ => rfl, nofun⟩
    · exact ⟨false, before ++ [item], hloop,
        iff_of_false Bool.false_ne_true hrepeat.not_keysDiffer, fun hle => absurd hle hshort, nofun,
        fun _ => ⟨before, item, hrepeat, rfl⟩⟩

end Loop

namespace Assertion

variable {rules : ArrayRules} {v : Value} {items : List Value} {identity : Value → Check Value}

/-- The check stands behind those of the length and in front of those of the elements. -/
theorem assertArray_of_identity (hidentity : rules.identity = some identity)
    (hv : v.array? = some items) (element : Assertion) (c : Context) :
    assertArray element rules v c =
      match rules.bounds.judge items.length with
      | .error fault => Check.raise (.fault fault)
      | .ok (some broken) => c.failUnder (arrayComplaint rules.bounds items.length broken)
      | .ok none => hasUniqueElements v identity >>= fun unique =>
        if unique then runElements (element.run .part) c 0 items
        else c.failUnder (.ok "array contains non-unique elements") := by
  unfold assertArray run arrayItems
  rcases hjudge : rules.bounds.judge items.length with fault | _ | broken
  · simp only [hv, hjudge, Check.ofExcept_error, Check.raise_bind]
  · simp only [hv, hjudge, hidentity, Check.ofExcept_ok, pure_bind, bind_assoc]
    refine congrArg (hasUniqueElements v identity >>= ·) (funext fun unique => ?_)
    cases unique with
    | true => simp only [if_true, pure_bind]
    | false =>
        simp only [Bool.false_eq_true, if_false]
        exact Context.failUnder_bind _ _ _
  · simp only [hv, hjudge, Check.ofExcept_ok, pure_bind]
    cases broken <;> exact Context.failUnder_bind _ _ _

/-- Whether an array has unique elements is found out exactly. The answer is that no two positions
    have the same identity, where keys are the same if they are one object or loosely equal; numbers
    of all kinds are by worth, and numbers that are not a number as one object alone. Elements are
    asked in order and once each, up to the first one that has the identity of an earlier one, and
    none at all if there are no two. The order of the elements makes no difference to the answer,
    where their identities keep to a store. In the check of an array all of this comes behind its
    length, and is over before any element is checked. -/
theorem hasUniqueElements_exact {factory : ErrorFactory} {keyOf : Value → Value}
    (hv : v.array? = some items) (h : Identifies factory identity keyOf items) :
    (∃ unique asked,
      hasUniqueElements v identity factory = ⟨asking identity factory asked, .ok unique⟩ ∧
      (unique = true ↔ KeysDiffer keyOf items) ∧
      (items.length ≤ 1 → asked = []) ∧
      (1 < items.length → unique = true → asked = items) ∧
      (unique = false → ∃ before item, IsFirstRepeat keyOf items before item ∧
        asked = before ++ [item]) ∧
      (∀ store : Identity → List Value, (∀ item ∈ items, (keyOf item).KeepsTo store) →
        ∀ w others, w.array? = some others → items.Perm others →
          (hasUniqueElements w identity factory).result = .ok unique) ∧
      ∀ (element : Assertion) (rules : ArrayRules) (c : Context), rules.identity = some identity →
        (∀ broken, rules.bounds.judge items.length = .ok (some broken) →
          assertArray element rules v c =
            c.failUnder (arrayComplaint rules.bounds items.length broken)) ∧
        (rules.bounds.judge items.length = .ok none →
          assertArray element rules v c factory =
            let rest : Check Unit := if unique then runElements (element.run .part) c 0 items
              else c.failUnder (.ok "array contains non-unique elements")
            ⟨asking identity factory asked ++ (rest factory).trace, (rest factory).result⟩)) ∧
    (∀ (heap : Heap) (a b : Value), a.LivesIn heap → b.LivesIn heap → a.hashable = .ok () →
      b.hashable = .ok () → (a.isSameKey b = true ↔ a.LooselyEq b)) ∧
    (∀ (a b : Value) (p : Extended), a.worth? = some p → b.worth? = some p → p ≠ .nan →
      a.isSameKey b = true) ∧
    ∀ i j : Identity, (Value.float i .nan).isSameKey (.float j .nan) = decide (i = j) := by
  refine ⟨?_, fun heap a b ha hb hkey hother =>
      (Value.looselyEq_iff_isSameKey a ha hkey b hb hother).symm,
    fun a b p ha hb hp => Value.isSameKey_of_worth ha hb hp, fun i j => ?_⟩
  · rcases hasUniqueElements_eq hv h with ⟨unique, asked, hcheck, hunique, hrest⟩
    refine ⟨unique, asked, hcheck, hunique, hrest.1, hrest.2.1, hrest.2.2,
      fun store hkept w others hw hperm => ?_,
      fun element rules c hidentity => ⟨fun broken hjudge => ?_, fun hjudge => ?_⟩⟩
    · have hothers : Identifies factory identity keyOf others :=
        ⟨fun item hmem => h.answers item (hperm.mem_iff.mpr hmem),
          fun item hmem => h.hashable item (hperm.mem_iff.mpr hmem)⟩
      rcases hasUniqueElements_eq hw hothers with ⟨answer, _, hother, hanswer, _⟩
      have hsame : KeysDiffer keyOf items ↔ KeysDiffer keyOf others :=
        ⟨KeysDiffer.of_perm hkept hperm, KeysDiffer.of_perm
          (fun item hmem => hkept item (hperm.mem_iff.mpr hmem)) hperm.symm⟩
      rw [hother, Bool.eq_iff_iff.mpr (hanswer.trans (hsame.symm.trans hunique.symm))]
    · rw [assertArray_of_identity hidentity hv, hjudge]
    · rw [assertArray_of_identity hidentity hv, hjudge]
      exact Check.bind_apply_ok hcheck _
  · simp [Value.isSameKey, Value.isSame, Value.sameWorth, Value.worth?, Binary64.worth]

/-- One, true and two, as they are and in another order. True has the identity of one, and is the
    last element that is asked. -/
theorem hasUniqueElements_exact_marks :
    hasUniqueElements (.list (.given 0) [.int 1, .bool true, .int 2]) (Probe.identity "mark" pure)
        .standard = ⟨[.identified "mark" (.int 1), .identified "mark" (.bool true)], .ok false⟩ ∧
      (hasUniqueElements (.tuple (.given 1) [.int 2, .bool true, .int 1])
        (Probe.identity "mark" pure) .standard).result = .ok false ∧
      (Value.int 1).isSameKey (.float (.given 2) (.ofInt 1)) = true := by
  have hmarks : ∀ item ∈ [Value.int 1, .bool true, .int 2],
      item.hashable = .ok () ∧ item.KeepsTo fun _ => [] := by
    intro item hmem
    simp only [List.mem_cons, List.not_mem_nil, or_false] at hmem
    rcases hmem with rfl | rfl | rfl <;> exact ⟨rfl, trivial⟩
  have hidentifies : Identifies .standard (Probe.identity "mark" pure) id
      [.int 1, .bool true, .int 2] :=
    ⟨fun _ _ => rfl, fun item hmem => (hmarks item hmem).1⟩
  have hperm : [Value.int 1, .bool true, .int 2].Perm [.int 2, .bool true, .int 1] :=
    (List.reverse_perm _).symm
  rcases hasUniqueElements_exact (v := .list (.given 0) [.int 1, .bool true, .int 2]) rfl
    hidentifies with ⟨⟨unique, _, hcheck, _, _, _, _, horder, _⟩, _, hworth, _⟩
  have hunique : unique = false := (Except.ok.inj (congrArg Outcome.result hcheck)).symm
  refine ⟨rfl, ?_, hworth _ _ _ rfl (by decide +kernel) (by decide)⟩
  rw [← hunique]
  exact horder (fun _ => []) (fun item hmem => (hmarks item hmem).2)
    (.tuple (.given 1) [.int 2, .bool true, .int 1]) _ rfl hperm

end Assertion

end Attest
