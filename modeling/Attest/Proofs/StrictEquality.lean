import Attest.Elements
import Attest.Factory
import Attest.Proofs.LooseEquality
import Attest.Proofs.Outcome

/-!
# Strict Equality

The equality that expected values are matched by is reflexive and symmetric, and transitive where no
order counts. The equality of arrays that is built on it is its element-wise lifting.

Strict equality is put together from rules that know nothing of each other. One object is equal to
itself. Integers, fractions and binary numbers are compared by their exact worth. Of the other
values only some are compared at all, each with those of its own kind, by text, by point in time, by
decimal worth, by members or by what a class was told. `kind?` sorts the values by the rule that
they fall under, and `strictEq_iff` brings the rules together: two values are strictly equal if they
are one object, or of one kind and loosely equal. Being one object keeps the kind, and so the laws
follow from those of loose equality for what has a kind, and of identity for what has none. That
a boolean is no number is a matter of kinds too: it has none.

An object that equals everything is left out, as it decides for itself. Frozen sets and classes that
were told what they hold have to live in a heap; nothing is asked of what other containers hold, as
these are matched by identity.

What a class was told is compared loosely, and this is where strict equality inherits what is loose
about the other. A class told `{'x': 1, 'y': 2}` is equal to one told a mapping with these entries
for which the order counts, whatever the order is, so that it stands between two that are not equal.
Transitivity is kept from a value on that was told no such mapping, and up to one, and
`strictEq_intransitive` shows that one of the two is needed.

## Main definitions

* `Value.kind?`: What a value is compared as, if by more than its identity.
* `Value.IsSettled`: A value that strict equality can be asked about.
* `Value.ToldNoOrder`: A value is no class that was told a mapping for which the order counts.
* `strictly`: The comparison of elements by strict equality.
* `EqualElements`: Two values have strictly equal elements.

## Theorems

* `strictEq_iff`: Strict equality is identity, or loose equality within a kind.
* `strictEq_kind_iff`, `strictEq_kindless_iff`: It is loose equality for what has a kind, and
  identity for what has none.
* `strictEq_self`, `strictEq_symm`, `strictEq_trans`: Its laws.
* `looseEq_number`, `strictEq_number_iff`: The comparison of numbers never fails and is exact.
* `haveEqualElements_missing`, `haveEqualElements_arrays`: What comparing arrays comes to.
* `strictEq_laws`: The laws of strict equality, and of the equality of arrays.
-/

namespace Attest

namespace Value

/-- What values are compared as, if strictly and by more than their identity. -/
inductive Kind where
  | number
  | decimal
  | text
  | bytes
  | dateTime
  | timestamp
  | date
  | frozenSet
  | applied
deriving DecidableEq

/-- What a value is compared as. Integers, fractions and binary numbers are compared as numbers of
    one kind; a boolean is none of them. -/
def kind? : Value → Option Kind
  | int _ | float .. | fraction _ => some .number
  | decimal .. => some .decimal
  | text _ => some .text
  | bytes _ => some .bytes
  | dateTime _ => some .dateTime
  | timestamp _ => some .timestamp
  | date _ => some .date
  | frozenSet .. => some .frozenSet
  | applied .. => some .applied
  | _ => none

/-- A value that strict equality can be asked about: an object that does not equal everything, or
    anything else, where what is compared by what it holds lives in a heap. -/
def IsSettled (heap : Heap) : Value → Prop
  | object _ _ mode => mode ≠ .universal
  | frozenSet id items => (frozenSet id items).LivesIn heap
  | applied c items => (applied c items).LivesIn heap
  | _ => True

/-- A value is no class that was told a mapping for which the order counts, at any depth. -/
def ToldNoOrder : Value → Prop
  | applied c items => (applied c items).IsOrderFree
  | _ => True

variable {heap : Heap} {a b c : Value} {xs : List Value}

theorem kind?_of_isSame (h : a.isSame b = true) : a.kind? = b.kind? :=
  eq_of_isSame (fun v => by cases v <;> rfl) h

theorem IsSettled.isUniversal (h : a.IsSettled heap) : a.isUniversal = false := by
  cases a with
  | object i text mode =>
      cases mode with
      | universal => exact absurd rfl h
      | _ => rfl
  | _ => rfl

theorem IsSettled.livesIn (h : a.IsSettled heap) {k : Kind} (hk : a.kind? = some k) :
    a.LivesIn heap := by
  cases a with
  | list | tuple | dict | view | ordered | set | object => exact absurd hk (by simp [kind?])
  | frozenSet | applied => exact h
  | _ => trivial

theorem ToldNoOrder.isOrderFree (h : a.ToldNoOrder) {k : Kind} (hk : a.kind? = some k) :
    a.IsOrderFree := by
  cases a with
  | list | tuple | dict | view | ordered => exact absurd hk (by simp [kind?])
  | applied => exact h
  | _ => trivial

theorem isUniversal_of_kind? {k : Kind} (h : a.kind? = some k) : a.isUniversal = false := by
  cases a with
  | object => exact absurd h (by simp [kind?])
  | _ => rfl

theorem isNumber_iff : a.isNumber = true ↔ a.kind? = some .number := by
  cases a <;> simp [isNumber, kind?]

/-- Numbers are loosely equal if they are one object or worth the same. -/
theorem looselyEq_number_iff (ha : a.isNumber = true) (hb : b.isNumber = true) :
    a.LooselyEq b ↔ a.isSame b = true ∨ a.sameWorth b = true := by
  have hbu := isUniversal_of_kind? (isNumber_iff.mp hb)
  cases a with
  | int | float | fraction => rw [looselyEq_plain_iff rfl rfl hbu, isSameKey_numeric_iff rfl]
  | _ => exact absurd ha Bool.false_ne_true

/-- Values of one kind are equal by the comparison of this kind if they are loosely equal. -/
theorem looselyEq_of_kindEq (ha : a.isUniversal = false) (hb : b.isUniversal = false)
    (h : kindEq a b = true) : ∃ k, a.kind? = some k ∧ b.kind? = some k ∧ a.LooselyEq b := by
  unfold kindEq at h
  split at h
  · exact ⟨.text, rfl, rfl, (looselyEq_plain_iff rfl rfl rfl).mpr h⟩
  · exact ⟨.bytes, rfl, rfl, (looselyEq_plain_iff rfl rfl rfl).mpr h⟩
  · exact ⟨.dateTime, rfl, rfl, (looselyEq_plain_iff rfl rfl rfl).mpr h⟩
  · exact ⟨.timestamp, rfl, rfl, (looselyEq_plain_iff rfl rfl rfl).mpr h⟩
  · exact ⟨.date, rfl, rfl, (looselyEq_plain_iff rfl rfl rfl).mpr h⟩
  · refine ⟨.decimal, rfl, rfl, (looselyEq_plain_iff rfl rfl rfl).mpr ?_⟩
    exact (isSameKey_numeric_iff rfl).mpr (Or.inr h)
  · exact ⟨.frozenSet, rfl, rfl, (looselyEq_set_iff rfl rfl).mpr
      ⟨_, rfl, Or.inr (membersEq_iff.mp h)⟩⟩
  · next c xs d ys =>
      rw [Bool.and_eq_true, decide_eq_true_eq, decide_eq_true_eq] at h
      rcases h with ⟨rfl, hitems⟩
      refine ⟨.applied, rfl, rfl, (looselyEq_applied_iff rfl).mpr ⟨ys, rfl, itemsEq_iff.mp ?_⟩⟩
      rcases hanswer : itemsEq xs ys with fault | answer
      · rw [hanswer] at hitems
        exact absurd hitems (by simp only [Except.toOption, reduceCtorEq, not_false_eq_true])
      · rw [hanswer] at hitems
        exact congrArg Except.ok (Option.some.inj hitems)
  · next mode _ _ _ =>
      rw [of_decide_eq_true h] at ha
      exact absurd ha (by simp [isUniversal])
  · exact absurd h Bool.false_ne_true

theorem kindEq_of_looselyEq {k : Kind} (ha : a.kind? = some k) (hb : b.kind? = some k)
    (hk : k ≠ .number) (h : a.LooselyEq b) : a.isSame b = true ∨ kindEq a b = true := by
  have hkind : a.kind? = b.kind? := ha.trans hb.symm
  cases a with
  | text | bytes | dateTime | timestamp | date =>
      cases b with
      | text | bytes | dateTime | timestamp | date =>
          -- These are compared as keys are, except that points in time have two kinds.
          first
            | exact Or.inr ((looselyEq_plain_iff rfl rfl rfl).mp h)
            | exact absurd hkind (by simp [kind?])
      | _ => exact absurd hkind (by simp [kind?])
  | decimal =>
      cases b with
      | decimal => exact (isSameKey_numeric_iff rfl).mp ((looselyEq_plain_iff rfl rfl rfl).mp h)
      | _ => exact absurd hkind (by simp [kind?])
  | frozenSet =>
      cases b with
      | frozenSet =>
          rcases (looselyEq_set_iff rfl rfl).mp h with ⟨_, hmembers, hsame⟩
          rw [← Option.some.inj hmembers] at hsame
          exact hsame.imp_right membersEq_iff.mpr
      | _ => exact absurd hkind (by simp [kind?])
  | applied =>
      rcases (looselyEq_applied_iff (isUniversal_of_kind? hb)).mp h with ⟨ys, rfl, hitems⟩
      exact Or.inr (by simp [kindEq, itemsEq_iff.mpr hitems, Except.toOption])
  | int | float | fraction => exact absurd (Option.some.inj ha).symm hk
  | _ => exact absurd ha (by simp [kind?])

/-- Strict equality is being one object, or being of one kind and loosely equal. -/
theorem strictEq_iff (ha : a.isUniversal = false) (hb : b.isUniversal = false) :
    a.strictEq b = true ↔
      a.isSame b = true ∨ ∃ k, a.kind? = some k ∧ b.kind? = some k ∧ a.LooselyEq b := by
  unfold strictEq
  rw [Bool.or_eq_true]
  by_cases hnumber : (a.isNumber && b.isNumber) = true
  · rw [if_pos hnumber]
    rw [Bool.and_eq_true] at hnumber
    rcases hnumber with ⟨haNumber, hbNumber⟩
    have hka := isNumber_iff.mp haNumber
    have hkb := isNumber_iff.mp hbNumber
    rw [← looselyEq_number_iff haNumber hbNumber]
    constructor
    · exact fun h => Or.inr ⟨.number, hka, hkb, h⟩
    · rintro (h | ⟨_, _, _, h⟩)
      · exact looselyEq_iff.mpr (Or.inl h)
      · exact h
  · rw [if_neg hnumber]
    constructor
    · exact Or.imp_right (looselyEq_of_kindEq ha hb)
    · rintro (h | ⟨k, hka, hkb, h⟩)
      · exact Or.inl h
      · refine kindEq_of_looselyEq hka hkb ?_ h
        rintro rfl
        exact hnumber (Bool.and_eq_true_iff.mpr ⟨isNumber_iff.mpr hka, isNumber_iff.mpr hkb⟩)

/-- What has a kind is strictly equal to what is loosely equal within the kind. -/
theorem strictEq_kind_iff {k : Kind} (ha : a.kind? = some k) (hb : b.isUniversal = false) :
    a.strictEq b = true ↔ b.kind? = some k ∧ a.LooselyEq b := by
  rw [strictEq_iff (isUniversal_of_kind? ha) hb]
  constructor
  · rintro (hsame | ⟨k', hka, hkb, hloosely⟩)
    · exact ⟨kind?_of_isSame hsame ▸ ha, looselyEq_iff.mpr (Or.inl hsame)⟩
    · rw [ha] at hka
      exact ⟨hkb.trans hka.symm, hloosely⟩
  · exact fun h => Or.inr ⟨k, ha, h.1, h.2⟩

/-- What has no kind is strictly equal to itself alone. -/
theorem strictEq_kindless_iff (ha : a.kind? = none) (hau : a.isUniversal = false)
    (hb : b.isUniversal = false) : a.strictEq b = true ↔ a.isSame b = true := by
  rw [strictEq_iff hau hb]
  refine or_iff_left ?_
  rintro ⟨k, hka, _⟩
  exact absurd (ha.symm.trans hka) (by simp only [reduceCtorEq, not_false_eq_true])

theorem strictEq_self (ha : a.IsSettled heap) : a.strictEq a = true := by
  rcases hk : a.kind? with _ | k
  · refine (strictEq_kindless_iff hk ha.isUniversal ha.isUniversal).mpr (isSame_self ?_)
    rintro c items rfl
    exact absurd hk (by simp only [kind?, reduceCtorEq, not_false_eq_true])
  · exact (strictEq_kind_iff hk ha.isUniversal).mpr ⟨hk, looselyEq_self a⟩

theorem strictEq_symm (ha : a.IsSettled heap) (hb : b.IsSettled heap) (h : a.strictEq b = true) :
    b.strictEq a = true := by
  rcases hk : a.kind? with _ | k
  · rw [strictEq_kindless_iff hk ha.isUniversal hb.isUniversal] at h
    rw [strictEq_kindless_iff (kind?_of_isSame h ▸ hk) hb.isUniversal ha.isUniversal]
    exact isSame_symm h
  · rw [strictEq_kind_iff hk hb.isUniversal] at h
    rw [strictEq_kind_iff h.1 ha.isUniversal]
    exact ⟨hk, looselyEq_symm (ha.livesIn hk) (hb.livesIn h.1) h.2⟩

theorem strictEq_trans (ha : a.IsSettled heap) (hb : b.IsSettled heap) (hc : c.IsSettled heap)
    (htold : a.ToldNoOrder) (hab : a.strictEq b = true) (hbc : b.strictEq c = true) :
    a.strictEq c = true := by
  rcases hk : a.kind? with _ | k
  · rw [strictEq_kindless_iff hk ha.isUniversal hb.isUniversal] at hab
    rw [strictEq_kindless_iff (kind?_of_isSame hab ▸ hk) hb.isUniversal hc.isUniversal] at hbc
    rw [strictEq_kindless_iff hk ha.isUniversal hc.isUniversal]
    exact isSame_trans hab hbc
  · rw [strictEq_kind_iff hk hb.isUniversal] at hab
    rw [strictEq_kind_iff hab.1 hc.isUniversal] at hbc
    rw [strictEq_kind_iff hk hc.isUniversal]
    exact ⟨hbc.1, looselyEq_trans (ha.livesIn hk) (htold.isOrderFree hk) (hb.livesIn hab.1)
      (hc.livesIn hbc.1) hab.2 hbc.2⟩

/-- The last value may be the one that was told no order, as strict equality is symmetric. -/
theorem strictEq_trans_of_last (ha : a.IsSettled heap) (hb : b.IsSettled heap)
    (hc : c.IsSettled heap) (htold : c.ToldNoOrder) (hab : a.strictEq b = true)
    (hbc : b.strictEq c = true) : a.strictEq c = true :=
  strictEq_symm hc ha
    (strictEq_trans hc hb ha htold (strictEq_symm hb hc hbc) (strictEq_symm ha hb hab))

/-- The comparison of numbers, which nothing guards, never fails. -/
theorem looseEq_number (ha : a.isNumber = true) (hb : b.isNumber = true) :
    a.looseEq b = .ok (a.sameWorth b) := by
  cases a with
  | int | float | fraction =>
      cases b with
      | int | float | fraction =>
          rw [looseEq_plain rfl (fun _ _ _ => Value.noConfusion)]
          simp [scalarEq, isNumeric, isSignalling]
      | _ => exact absurd hb Bool.false_ne_true
  | _ => exact absurd ha Bool.false_ne_true

theorem number?_of_isNumber (ha : a.isNumber = true) :
    ∃ x, a.worth? = some x ∧ a.number? = some (.exact x) := by
  cases a with
  | int | float | fraction => exact ⟨_, rfl, rfl⟩
  | _ => exact absurd ha Bool.false_ne_true

/-- The comparison of numbers is exact, whatever their kinds and however large they are. -/
theorem strictEq_number_iff (ha : a.isNumber = true) (hb : b.isNumber = true) :
    a.strictEq b = true ↔ a.isSame b = true ∨
      ∃ x, a.worth? = some x ∧ b.worth? = some x ∧ x ≠ .nan := by
  rcases number?_of_isNumber ha with ⟨x, hx, hxMeasure⟩
  rcases number?_of_isNumber hb with ⟨y, hy, hyMeasure⟩
  have hworth : a.sameWorth b = true ↔ x = y ∧ x ≠ .nan := by
    rw [sameWorth_iff, ← Extended.beq_eq_true_iff]
    constructor
    · rintro ⟨m, n, hm, hn, h⟩
      rw [hxMeasure, Option.some.injEq] at hm
      rw [hyMeasure, Option.some.injEq] at hn
      subst hm hn
      exact h
    · exact fun h => ⟨_, _, hxMeasure, hyMeasure, h⟩
  unfold strictEq
  rw [ha, hb, Bool.and_self, if_pos rfl, Bool.or_eq_true, hworth, hx, hy]
  simp only [Option.some.injEq]
  refine or_congr_right ⟨?_, ?_⟩
  · rintro ⟨rfl, hne⟩
    exact ⟨x, rfl, rfl, hne⟩
  · rintro ⟨_, rfl, rfl, hne⟩
    exact ⟨rfl, hne⟩

theorem strictEq_bool_number (t : Bool) (hb : b.isNumber = true) :
    (bool t).strictEq b = false ∧ b.strictEq (bool t) = false := by
  cases b with
  | int | float | fraction => exact ⟨rfl, rfl⟩
  | _ => exact absurd hb Bool.false_ne_true

theorem elements_of_array (ha : a.array? = some xs) :
    a.isPresent = true ∧ a.length = .ok xs.length ∧ a.elements = .ok xs := by
  cases a with
  | list | tuple => exact Option.some.inj ha ▸ ⟨rfl, rfl, rfl⟩
  | _ => exact absurd ha (by simp [array?])

/-- What is missing is one object with itself alone. -/
theorem isSame_of_missing (ha : a.isPresent = false) : a.isSame b = true ↔ b = a := by
  cases a with
  | undefined | null => cases b <;> simp [isSame]
  | _ => exact absurd ha (by simp [isPresent])

/-- A value is an array of values with a property, or missing. -/
def IsArrayWith (P : Value → Prop) (v : Value) : Prop :=
  v.isPresent = false ∨ ∃ items, v.array? = some items ∧ ∀ item ∈ items, P item

theorem IsArrayWith.of_array {P : Value → Prop} (h : a.IsArrayWith P) (ha : a.array? = some xs) :
    ∀ x ∈ xs, P x := by
  rcases h with h | ⟨items, hitems, h⟩
  · exact absurd ((elements_of_array ha).1.symm.trans h) Bool.false_ne_true.symm
  · exact Option.some.inj (hitems.symm.trans ha) ▸ h

end Value

/-- The comparison of elements by strict equality. -/
def strictly (a b : Value) : Check Value :=
  pure (.bool (a.strictEq b))

section Arrays

variable {heap : Heap} {a b c : Value} {xs ys : List Value}

theorem allPairs_strictly (pairs : List (Value × Value)) :
    allPairs strictly pairs = pure (pairs.all fun pair => pair.1.strictEq pair.2) := by
  induction pairs with
  | nil => rfl
  | cons pair pairs ih =>
      rcases pair with ⟨x, y⟩
      simp only [allPairs, strictly, pure_bind, Value.isTruthy, List.all_cons]
      cases x.strictEq y with
      | true => simpa only [if_true, Bool.true_and] using ih
      | false => rfl

theorem haveEqualElements_missing (h : a.isPresent = false ∨ b.isPresent = false) :
    haveEqualElements a b strictly = pure (a.isSame b) := by
  have hmissing : (!a.isPresent || !b.isPresent) = true := by
    rw [Bool.or_eq_true, Bool.not_eq_true', Bool.not_eq_true']
    exact h
  rw [haveEqualElements, if_pos hmissing]

theorem haveEqualElements_arrays (ha : a.array? = some xs) (hb : b.array? = some ys) :
    haveEqualElements a b strictly =
      pure (xs.length = ys.length && (xs.zip ys).all fun pair => pair.1.strictEq pair.2) := by
  rcases Value.elements_of_array ha with ⟨haPresent, haLength, haElements⟩
  rcases Value.elements_of_array hb with ⟨hbPresent, hbLength, hbElements⟩
  simp only [haveEqualElements, haPresent, hbPresent, haLength, hbLength, haElements, hbElements,
    Bool.not_true, Bool.or_self, Bool.false_eq_true, if_false, Check.ofExcept_ok, pure_bind,
    allPairs_strictly]
  by_cases hlength : xs.length = ys.length
  · simp only [hlength, ne_eq, not_true_eq_false, if_false, decide_true, Bool.true_and]
  · simp only [hlength, ne_eq, not_false_eq_true, if_true, decide_false, Bool.false_and]

/-- Two values have equal elements. -/
def EqualElements (a b : Value) : Prop :=
  haveEqualElements a b strictly = pure true

theorem pure_eq_true_iff {answer : Bool} :
    (pure answer : Check Bool) = pure true ↔ answer = true := by
  refine ⟨fun h => ?_, fun h => h ▸ rfl⟩
  have houtcome := congrArg Outcome.result (congrFun h ErrorFactory.standard)
  exact Except.ok.inj houtcome

theorem equalElements_missing (ha : a.isPresent = false) : EqualElements a b ↔ b = a := by
  rw [EqualElements, haveEqualElements_missing (Or.inl ha), pure_eq_true_iff,
    Value.isSame_of_missing ha]

/-- Arrays have equal elements if these correspond. -/
theorem equalElements_arrays (ha : a.array? = some xs) (hb : b.array? = some ys) :
    EqualElements a b ↔ List.Forall₂ (fun x y => x.strictEq y = true) xs ys := by
  rw [EqualElements, haveEqualElements_arrays ha hb, pure_eq_true_iff, Bool.and_eq_true,
    decide_eq_true_eq, List.forall₂_iff_zip, List.all_eq_true]
  exact and_congr_right fun _ => ⟨fun h x y hmem => h (x, y) hmem, fun h pair hmem => h hmem⟩

theorem equalElements_missing_right (hb : b.isPresent = false) : EqualElements a b ↔ a = b := by
  rw [EqualElements, haveEqualElements_missing (Or.inr hb), pure_eq_true_iff,
    ← Value.isSame_of_missing hb]
  exact ⟨Value.isSame_symm, Value.isSame_symm⟩

theorem equalElements_self (ha : a.IsArrayWith (Value.IsSettled heap)) : EqualElements a a := by
  rcases ha with ha | ⟨xs, hxs, hsettled⟩
  · exact (equalElements_missing ha).mpr rfl
  · exact (equalElements_arrays hxs hxs).mpr
      (List.forall₂_same.mpr fun x hx => Value.strictEq_self (hsettled x hx))

theorem equalElements_symm (ha : a.IsArrayWith (Value.IsSettled heap))
    (hb : b.IsArrayWith (Value.IsSettled heap)) (h : EqualElements a b) : EqualElements b a := by
  rcases ha with ha | ⟨xs, hxs, hxsSettled⟩
  · exact (equalElements_missing_right ha).mpr ((equalElements_missing ha).mp h)
  · rcases hb with hb | ⟨ys, hys, hysSettled⟩
    · exact (equalElements_missing hb).mpr ((equalElements_missing_right hb).mp h)
    · rw [equalElements_arrays hxs hys] at h
      exact (equalElements_arrays hys hxs).mpr (Value.forall₂_symm_of (fun x hx y hy =>
        Value.strictEq_symm (hxsSettled x hx) (hysSettled y hy)) h)

theorem equalElements_trans (ha : a.IsArrayWith (Value.IsSettled heap))
    (hb : b.IsArrayWith (Value.IsSettled heap)) (hc : c.IsArrayWith (Value.IsSettled heap))
    (htold : a.IsArrayWith Value.ToldNoOrder ∨ c.IsArrayWith Value.ToldNoOrder)
    (hab : EqualElements a b) (hbc : EqualElements b c) : EqualElements a c := by
  rcases hb with hb | ⟨ys, hys, hysSettled⟩
  · rwa [(equalElements_missing_right hb).mp hab]
  rcases ha with ha | ⟨xs, hxs, hxsSettled⟩
  · rwa [← (equalElements_missing ha).mp hab]
  rcases hc with hc | ⟨zs, hzs, hzsSettled⟩
  · rwa [← (equalElements_missing_right hc).mp hbc]
  rw [equalElements_arrays hxs hys] at hab
  rw [equalElements_arrays hys hzs] at hbc
  refine (equalElements_arrays hxs hzs).mpr (Value.forall₂_trans_of ?_ hab hbc)
  intro x hx y hy z hz
  rcases htold with htold | htold
  · exact Value.strictEq_trans (hxsSettled x hx) (hysSettled y hy) (hzsSettled z hz)
      (htold.of_array hxs x hx)
  · exact Value.strictEq_trans_of_last (hxsSettled x hx) (hysSettled y hy) (hzsSettled z hz)
      (htold.of_array hzs z hz)

/-- The comparison of arrays has an answer, under every factory and without a call, and it is the
    element-wise lifting of strict equality. -/
theorem haveEqualElements_lifts (ha : a.array? = some xs) (hb : b.array? = some ys) :
    ∃ answer, haveEqualElements a b strictly = pure answer ∧
      (answer = true ↔ List.Forall₂ (fun x y => x.strictEq y = true) xs ys) := by
  refine ⟨_, haveEqualElements_arrays ha hb, ?_⟩
  rw [← equalElements_arrays ha hb, EqualElements, haveEqualElements_arrays ha hb, pure_eq_true_iff]

/-- What is missing is equal to what is missing in the same way, and to nothing else. -/
theorem haveEqualElements_missing_iff (h : a.isPresent = false ∨ b.isPresent = false) :
    ∃ answer, haveEqualElements a b strictly = pure answer ∧ (answer = true ↔ a = b) := by
  refine ⟨_, haveEqualElements_missing h, ?_⟩
  rcases h with ha | hb
  · exact (Value.isSame_of_missing ha).trans eq_comm
  · rw [← Value.isSame_of_missing hb]
    exact ⟨Value.isSame_symm, Value.isSame_symm⟩

end Arrays

/-- Strict equality is reflexive and symmetric on values of which none decides for itself, and it is
    transitive where the first or the last value is no class that was told a mapping for which the
    order counts. The comparison of numbers does not fail and is exact, across all kinds of them;
    a number that is not a number is equal to itself, as one object, and a boolean is never equal to
    a number. Comparing arrays by strict equality always has an answer, which for two arrays is that
    of the elements, one by one, and for what is missing says whether both are. It obeys the
    same laws. -/
theorem strictEq_laws (heap : Heap) :
    (∀ a : Value, a.IsSettled heap → a.strictEq a = true) ∧
    (∀ a b : Value, a.IsSettled heap → b.IsSettled heap → a.strictEq b = true →
      b.strictEq a = true) ∧
    (∀ a b c : Value, a.IsSettled heap → b.IsSettled heap → c.IsSettled heap →
      a.ToldNoOrder ∨ c.ToldNoOrder → a.strictEq b = true → b.strictEq c = true →
      a.strictEq c = true) ∧
    (∀ a b : Value, a.isNumber = true → b.isNumber = true →
      a.looseEq b = .ok (a.sameWorth b) ∧
      (a.strictEq b = true ↔ a.isSame b = true ∨
        ∃ x, a.worth? = some x ∧ b.worth? = some x ∧ x ≠ .nan)) ∧
    (∀ (t : Bool) (b : Value), b.isNumber = true →
      (Value.bool t).strictEq b = false ∧ b.strictEq (.bool t) = false) ∧
    (∀ (a b : Value) (xs ys : List Value), a.array? = some xs → b.array? = some ys →
      ∃ answer, haveEqualElements a b strictly = pure answer ∧
        (answer = true ↔ List.Forall₂ (fun x y => x.strictEq y = true) xs ys)) ∧
    (∀ a b : Value, a.isPresent = false ∨ b.isPresent = false →
      ∃ answer, haveEqualElements a b strictly = pure answer ∧ (answer = true ↔ a = b)) ∧
    (∀ a : Value, a.IsArrayWith (Value.IsSettled heap) → EqualElements a a) ∧
    (∀ a b : Value, a.IsArrayWith (Value.IsSettled heap) → b.IsArrayWith (Value.IsSettled heap) →
      EqualElements a b → EqualElements b a) ∧
    ∀ a b c : Value, a.IsArrayWith (Value.IsSettled heap) → b.IsArrayWith (Value.IsSettled heap) →
      c.IsArrayWith (Value.IsSettled heap) →
      a.IsArrayWith Value.ToldNoOrder ∨ c.IsArrayWith Value.ToldNoOrder →
      EqualElements a b → EqualElements b c → EqualElements a c := by
  refine ⟨fun a => Value.strictEq_self, fun a b => Value.strictEq_symm, fun a b c ha hb hc htold =>
      ?_, fun a b ha hb => ⟨Value.looseEq_number ha hb, Value.strictEq_number_iff ha hb⟩,
    fun t b hb => Value.strictEq_bool_number t hb, fun a b xs ys => haveEqualElements_lifts,
    fun a b => haveEqualElements_missing_iff, fun a => equalElements_self,
    fun a b => equalElements_symm, fun a b c => equalElements_trans⟩
  exact htold.elim (Value.strictEq_trans ha hb hc) (Value.strictEq_trans_of_last ha hb hc)

/-- A set that cannot be changed. -/
def onesSet : Value :=
  .frozenSet (.given 0) [.int 1, .text "a"]

/-- A set with other spellings of the same members. -/
def trueSet : Value :=
  .frozenSet (.given 1) [.text "a", .bool true]

/-- What the two sets hold. -/
def setHeap : Heap :=
  ⟨fun id => if id = .given 0 then [.int 1, .text "a"] else [.text "a", .bool true], fun _ => []⟩

theorem onesSet_isSettled : onesSet.IsSettled setHeap :=
  ⟨rfl, List.pairwise_pair.mpr (by decide), trivial, trivial, trivial⟩

theorem trueSet_isSettled : trueSet.IsSettled setHeap :=
  ⟨rfl, List.pairwise_pair.mpr (by decide), trivial, trivial, trivial⟩

/-- The two sets are equal both ways, and so are arrays that hold them. An integer is told from the
    nearest binary number, by a comparison that does not fail. -/
theorem strictEq_laws_sets :
    onesSet.strictEq trueSet = true ∧ trueSet.strictEq onesSet = true ∧
      onesSet.strictEq onesSet = true ∧
      (Value.int 9007199254740993).strictEq
        (.float (.given 2) (.ofInt 9007199254740993)) = false ∧
      (Value.int 9007199254740993).looseEq (.float (.given 2) (.ofInt 9007199254740993)) =
        .ok ((Value.int 9007199254740993).sameWorth
          (.float (.given 2) (.ofInt 9007199254740993))) ∧
      (Value.bool true).strictEq (.int 1) = false ∧
      (∃ answer, haveEqualElements (.list (.given 3) [onesSet]) .null strictly = pure answer ∧
        (answer = true ↔ Value.list (.given 3) [onesSet] = .null)) ∧
      EqualElements (.tuple (.given 4) [trueSet]) (.list (.given 3) [onesSet]) ∧
      EqualElements (.list (.given 3) [onesSet]) (.list (.given 3) [onesSet]) := by
  have hsets : onesSet.strictEq trueSet = true := by decide
  rcases strictEq_laws setHeap with
    ⟨_, hsymm, htrans, hnumbers, hbooleans, hlifts, hmissing, _, hsymmArrays, htransArrays⟩
  have hback := hsymm onesSet trueSet onesSet_isSettled trueSet_isSettled hsets
  have hones : (Value.list (.given 3) [onesSet]).IsArrayWith (Value.IsSettled setHeap) :=
    Or.inr ⟨[onesSet], rfl, List.forall_mem_singleton.mpr onesSet_isSettled⟩
  have htrue : (Value.tuple (.given 4) [trueSet]).IsArrayWith (Value.IsSettled setHeap) :=
    Or.inr ⟨[trueSet], rfl, List.forall_mem_singleton.mpr trueSet_isSettled⟩
  have htold : (Value.list (.given 3) [onesSet]).IsArrayWith Value.ToldNoOrder :=
    Or.inr ⟨[onesSet], rfl, List.forall_mem_singleton.mpr trivial⟩
  have hequal : EqualElements (.list (.given 3) [onesSet]) (.tuple (.given 4) [trueSet]) := by
    rcases hlifts (.list (.given 3) [onesSet]) (.tuple (.given 4) [trueSet]) _ _ rfl rfl with
      ⟨answer, hanswer, htrueIff⟩
    exact hanswer.trans (congrArg pure (htrueIff.mpr (.cons hsets .nil)))
  have hequalBack := hsymmArrays _ _ hones htrue hequal
  exact ⟨hsets, hback, htrans onesSet trueSet onesSet onesSet_isSettled trueSet_isSettled
      onesSet_isSettled (Or.inl trivial) hsets hback, by decide +kernel, (hnumbers _ _ rfl rfl).1,
    (hbooleans true (.int 1) rfl).1, hmissing _ _ (Or.inr rfl), hequalBack,
    htransArrays _ _ _ hones htrue hones (Or.inl htold) hequal hequalBack⟩

/-- The entries of a mapping. -/
def pairEntries : List (Value × Value) :=
  [(.text "x", .int 1), (.text "y", .int 2)]

/-- A class told a mapping for which the order counts. -/
def orderedAlias : Value :=
  .applied .list [.ordered (.given 0) pairEntries]

/-- The class told a plain mapping with the same entries. -/
def plainAlias : Value :=
  .applied .list [.dict (.given 1) pairEntries]

/-- The class told a mapping that has them the other way round. -/
def reversedAlias : Value :=
  .applied .list [.ordered (.given 2) pairEntries.reverse]

/-- What the three mappings hold. -/
def aliasHeap : Heap :=
  ⟨fun _ => [], fun id => if id = .given 2 then pairEntries.reverse else pairEntries⟩

theorem pairEntries_isMapping : Entries.IsMapping aliasHeap.items pairEntries :=
  ⟨by simp [pairEntries, Value.KeepsTo], List.pairwise_pair.mpr (by decide)⟩

theorem reversedEntries_isMapping : Entries.IsMapping aliasHeap.items pairEntries.reverse :=
  ⟨by simp [pairEntries, Value.KeepsTo], List.pairwise_pair.mpr (by decide)⟩

/-- A class told a plain mapping stands between two that are not equal. What a class was told, and
    what a frozen set holds, is compared loosely also where a boolean meets a number. -/
theorem strictEq_intransitive :
    orderedAlias.IsSettled aliasHeap ∧ plainAlias.IsSettled aliasHeap ∧
      reversedAlias.IsSettled aliasHeap ∧ orderedAlias.strictEq plainAlias = true ∧
      plainAlias.strictEq reversedAlias = true ∧ orderedAlias.strictEq reversedAlias = false ∧
      (Value.frozenSet (.given 3) [.bool true]).strictEq (.frozenSet (.given 4) [.int 1]) = true ∧
      (Value.applied .list [.bool true]).strictEq (.applied .list [.int 1]) = true := by
  refine ⟨⟨⟨rfl, pairEntries_isMapping, ⟨trivial, trivial, trivial⟩, trivial, trivial, trivial⟩,
      trivial⟩, ⟨⟨rfl, pairEntries_isMapping, trivial, trivial, trivial⟩, trivial⟩,
    ⟨⟨rfl, reversedEntries_isMapping, ⟨trivial, trivial, trivial⟩, trivial, trivial, trivial⟩,
      trivial⟩, ?_⟩
  decide

end Attest
