import Mathlib.Data.Int.ConditionallyCompleteOrder
import Mathlib.Order.ConditionallyCompleteLattice.Basic
import Attest.Assert
import Attest.Proofs.Acceptance

/-!
# Lengths

Which lengths bounds let pass, and when an array with bounds is built at all.

Bounds are read in three places: when an array is built, when it is run, and when a text is run.
Each place replaces what is not given on its own, and each asks its questions in an order. `Mean`
says once what bounds stand for, a least length and a largest one that may be no length at all, and
every place is then an equation about these two.

`arrayOf_eq` has three branches, although the bounds are asked three questions before an array is
built. The last question is whether the largest length is negative, and by then it cannot be: it is
not below the least one, which is not negative. So the answers that are left are that the bounds
cross, that they begin below zero, and that there is an array. `assertArray_eq` and
`run_boundedText_eq` say that a run asks about the lower bound first and about the upper one after
it, and that an array which is neither too short nor too long is checked as if it had no bounds.
Nothing asks there whether the bounds cross; if they do, no length is left.

## Main definitions

* `Value.AsLeast`, `Value.AsMost`: The lengths that bounds are given as.
* `Bounds.Mean`: Bounds mean the lengths from a least to a largest one.
* `IsWithin`: A length lies between a least and a largest one.

## Theorems

* `isTruthy_of_worth`: Which real numbers count as false.
* `Mean.worth_lower`, `Mean.worth_upper`: What bounds are compared with.
* `arrayOf_eq`, `arrayOf_ok_iff`: What becomes of an array that is built with bounds.
* `judge_eq`: How a length breaks bounds.
* `runBoundedText_text`: The check of a text ends as its length is judged.
* `assertArray_eq`, `run_boundedText_eq`: What bounds do to a run.
* `refused_of_crossing`: Bounds that cross refuse every length.
* `lengths_inclusive`: Bounds are inclusive at both ends, and checked at once where they cross or
  are negative.
-/

namespace Attest

namespace Value

/-- A value stands for a least length: a number for the integer it is worth, and nothing for
    zero. -/
inductive AsLeast : Value → Int → Prop
  | absent : AsLeast .null 0
  | number {v : Value} {m : Int} (h : v.worth? = some (.ofInt m)) : AsLeast v m

/-- A value stands for a largest length: a number for the integer it is worth, and nothing or an
    infinite number for none. -/
inductive AsMost : Value → WithTop Int → Prop
  | absent : AsMost .null ⊤
  | number {v : Value} {m : Int} (h : v.worth? = some (.ofInt m)) : AsMost v m
  | infinite {v : Value} (h : v.worth? = some (.infinite false)) : AsMost v ⊤

/-- A real number counts as false if it is worth nothing. -/
theorem isTruthy_of_worth {a : Value} {p : Extended} (h : a.worth? = some p) :
    a.isTruthy = !p.isZero := by
  cases a with
  | bool t => cases t <;> exact Option.some.inj h ▸ rfl
  | int n =>
      rw [← Option.some.inj h]
      simp [isTruthy, Extended.ofInt, Extended.isZero]
  | float | fraction =>
      rw [← Option.some.inj h]
      simp [isTruthy, Extended.isZero]
  | _ => exact absurd h (by simp [worth?])

end Value

namespace Extended

theorem blt_ofInt (m n : Int) : (ofInt m).blt (ofInt n) = decide (m < n) := by
  simp only [blt, ofInt, Rat.intCast_lt_intCast]

/-- The worth of a largest length; without one it is infinite. -/
def ofMost : WithTop Int → Extended
  | ⊤ => .infinite false
  | (n : Int) => ofInt n

theorem ofMost_blt (most : WithTop Int) (n : Int) :
    (ofMost most).blt (ofInt n) = decide (most < n) := by
  cases most with
  | top => exact (decide_eq_false not_top_lt).symm
  | coe m =>
      have hlt : ((m : WithTop Int) < n) = (m < n) := propext WithTop.coe_lt_coe
      simp only [hlt]
      exact blt_ofInt m n

end Extended

/-- Bounds mean the lengths from a least to a largest one, both inclusive. -/
structure Bounds.Mean (b : Bounds) (least : Int) (most : WithTop Int) : Prop where
  least : b.min.AsLeast least
  most : b.max.AsMost most

/-- A length lies between a least and a largest one, either of which it may be. -/
def IsWithin (least : Int) (most : WithTop Int) (n : Nat) : Prop :=
  least ≤ n ∧ ((n : Int) : WithTop Int) ≤ most

/-- If a least length is no less than nothing and no more than the largest one, it is a length. -/
theorem exists_isWithin {least : Int} {most : WithTop Int} (hleast : 0 ≤ least)
    (hmost : least ≤ most) : ∃ n, IsWithin least most n := by
  refine ⟨least.toNat, ?_⟩
  unfold IsWithin
  rw [Int.toNat_of_nonneg hleast]
  exact ⟨Int.le_refl least, hmost⟩

namespace Bounds

variable {b : Bounds} {least : Int} {most : WithTop Int}

theorem Mean.worth_lower (h : b.Mean least most) : b.lower.worth? = some (.ofInt least) := by
  rcases b with ⟨min, max⟩
  rcases h.least with _ | hmin
  · rfl
  · have htruthy := Value.isTruthy_of_worth hmin
    unfold lower
    by_cases hzero : (Extended.ofInt least).isZero = true
    · -- What counts as false is replaced by zero, and is zero itself.
      have hleast : least = 0 := by simpa [Extended.ofInt, Extended.isZero] using hzero
      subst hleast
      simp only [htruthy, hzero, Bool.not_true, Bool.false_eq_true, if_false]
      rfl
    · simp only [htruthy, hzero, Bool.not_false, if_true]
      exact hmin

theorem Mean.worth_upper (h : b.Mean least most) :
    b.upper.worth? = some (.ofMost most) := by
  rcases b with ⟨min, max⟩
  have hnumber : ∀ {x}, max.worth? = some x → upper ⟨min, max⟩ = max := by
    intro x hx
    cases max with
    | null => exact absurd hx (by simp [Value.worth?])
    | _ => rfl
  rcases h.most with _ | hmax | hmax
  · rfl
  · rw [hnumber hmax]
    exact hmax
  · rw [hnumber hmax]
    exact hmax

/-- How a length breaks bounds. A length that is too short is not asked whether it is too long. -/
theorem judge_eq (h : b.Mean least most) (n : Nat) :
    b.judge n = .ok (if (n : Int) < least then some .tooShort
      else if most < (n : Int) then some .tooLong else none) := by
  unfold judge
  rw [Value.less_of_worth rfl h.worth_lower, Value.greater_of_worth rfl h.worth_upper,
    Extended.blt_ofInt, Extended.ofMost_blt]
  by_cases hshort : (n : Int) < least
  · simp only [hshort, decide_true, if_true, bind, Except.bind, pure, Except.pure]
  · by_cases hlong : most < (n : Int)
    · simp only [hshort, hlong, decide_true, decide_false, Bool.false_eq_true, if_true, if_false,
        bind, Except.bind, pure, Except.pure]
    · simp only [hshort, hlong, decide_false, Bool.false_eq_true, if_false, bind, Except.bind, pure,
        Except.pure]

end Bounds

namespace Assertion

variable {rules : ArrayRules} {least : Int} {most : WithTop Int}

theorem crossingComplaint_ne_empty (b : Bounds) : crossingComplaint b ≠ .ok "" := by
  refine bind_ne_empty fun lower => bind_ne_empty fun upper => ?_
  simp only [String.append_assoc]
  exact ok_append_ne_empty (by decide) _

theorem negativeComplaint_ne_empty (name : String) (bound : Value) :
    negativeComplaint name bound ≠ .ok "" :=
  bind_ne_empty fun form => ok_append_ne_empty
    (fun hempty => absurd (String.append_eq_empty_iff.mp hempty).2 (by decide)) form

/-- What is said of bounds that can be written, and cross or begin below zero. -/
theorem complaints_of_isWritable {b : Bounds} (h : b.IsWritable) :
    ∃ lower upper, b.lower.plain = .ok lower ∧ b.upper.plain = .ok upper ∧
      crossingComplaint b = .ok ("min_length must be <= max_length! min_length: " ++ lower ++
        ", max_length: " ++ upper) ∧
      negativeComplaint "min_length" b.lower =
        .ok ("min_length must be a positive number: " ++ lower) := by
  rcases (Value.plain_written fun h => h).exists_ok h.1 with ⟨lower, hlower⟩
  rcases (Value.plain_written fun h => h).exists_ok h.2 with ⟨upper, hupper⟩
  refine ⟨lower, upper, hlower, hupper, ?_, ?_⟩
  · rw [crossingComplaint, hlower, hupper]
    rfl
  · rw [negativeComplaint, hlower]
    rfl

/-- What becomes of an array that is built with bounds. The largest length is asked for its sign
    too, but only where it is not below a least length that is not negative. -/
theorem arrayOf_eq (h : rules.bounds.Mean least most) (element : Assertion) :
    arrayOf element rules =
      if most < least then Check.failText (Check.ofExcept (crossingComplaint rules.bounds))
      else if least < 0 then
        Check.failText (Check.ofExcept (negativeComplaint "min_length" rules.bounds.lower))
      else pure (array element rules) := by
  have hzero : (Value.int 0).worth? = some (.ofInt 0) := rfl
  unfold arrayOf checkBounds
  simp only [Value.greater_of_worth h.worth_lower h.worth_upper,
    Value.less_of_worth h.worth_lower hzero, Value.less_of_worth h.worth_upper hzero,
    Extended.ofMost_blt, Extended.blt_ofInt, Check.ofExcept_ok, pure_bind, decide_eq_true_eq]
  by_cases hcross : most < least
  · simp only [hcross, if_true]
    exact Check.fail_bind _ _ _
  · by_cases hnegative : least < 0
    · simp only [hcross, hnegative, if_true, if_false]
      exact Check.fail_bind _ _ _
    · have hmost : ¬ most < ((0 : Int) : WithTop Int) := fun hlt =>
        hcross (lt_of_lt_of_le hlt (WithTop.coe_le_coe.mpr (Int.not_lt.mp hnegative)))
      simp only [hcross, hnegative, hmost, if_false, pure_bind]

/-- What bounds do to the check of an array. -/
theorem assertArray_eq (h : rules.bounds.Mean least most) (element : Assertion) {v : Value}
    {items : List Value} (hv : v.array? = some items) (c : Context) :
    assertArray element rules v c =
      if (items.length : Int) < least then
        c.failUnder (arrayComplaint rules.bounds items.length .tooShort)
      else if most < (items.length : Int) then
        c.failUnder (arrayComplaint rules.bounds items.length .tooLong)
      else assertArray element { rules with bounds := .unbounded } v c := by
  have hunbounded : Bounds.unbounded.judge items.length = .ok none := by
    rw [Bounds.judge_eq ⟨.number rfl, .absent⟩]
    simp only [Int.not_lt.mpr (Int.natCast_nonneg items.length), not_top_lt, if_false]
  unfold assertArray run arrayItems
  simp only [hv, hunbounded, Bounds.judge_eq h, Check.ofExcept_ok, pure_bind]
  by_cases hshort : (items.length : Int) < least
  · simp only [hshort, if_true]
    exact Context.failUnder_bind _ _ _
  · by_cases hlong : most < (items.length : Int)
    · simp only [hshort, hlong, if_true, if_false]
      exact Context.failUnder_bind _ _ _
    · simp only [hshort, hlong, if_false]

/-- The check of a text ends as its length is judged. -/
theorem runBoundedText_text (bounds : Bounds) (s : String) (c : Context) :
    (∀ fault, bounds.judge s.length = .error fault →
      runBoundedText bounds (.text s) c = Check.raise (.fault fault)) ∧
    (bounds.judge s.length = .ok none → runBoundedText bounds (.text s) c = pure ()) ∧
    ∀ broken, bounds.judge s.length = .ok (some broken) →
      runBoundedText bounds (.text s) c = c.failAt (textComplaint bounds s.length broken) := by
  have hstring : Primitive.string.run (.text s) c = pure () := rfl
  have hlength : (Value.text s).length = .ok s.length := rfl
  unfold runBoundedText
  simp only [hstring, hlength, pure_bind, Check.ofExcept_ok]
  refine ⟨fun fault hjudge => ?_, fun hjudge => ?_, fun broken hjudge => ?_⟩
  · simp only [hjudge, Check.ofExcept_error, Check.raise_bind]
  · simp only [hjudge, Check.ofExcept_ok, pure_bind]
  · simp only [hjudge, Check.ofExcept_ok, pure_bind]

/-- What bounds do to the check of a text. -/
theorem run_boundedText_eq {b : Bounds} (h : b.Mean least most) (position : Position) (s : String)
    (c : Context) :
    (boundedText b).run position (.text s) c =
      if (s.length : Int) < least then c.failAt (textComplaint b s.length .tooShort)
      else if most < (s.length : Int) then c.failAt (textComplaint b s.length .tooLong)
      else pure () := by
  have hjudge := Bounds.judge_eq h s.length
  have hrun : (boundedText b).run position (.text s) c = runBoundedText b (.text s) c := rfl
  rw [hrun]
  by_cases hshort : (s.length : Int) < least
  · rw [if_pos hshort] at hjudge ⊢
    exact (runBoundedText_text b s c).2.2 .tooShort hjudge
  · rw [if_neg hshort] at hjudge ⊢
    by_cases hlong : most < (s.length : Int)
    · rw [if_pos hlong] at hjudge ⊢
      exact (runBoundedText_text b s c).2.2 .tooLong hjudge
    · rw [if_neg hlong] at hjudge ⊢
      exact (runBoundedText_text b s c).2.1 hjudge

section Refused

variable {factory : ErrorFactory}

/-- An array is built if its bounds neither cross nor begin below zero. -/
theorem arrayOf_ok_iff (h : rules.bounds.Mean least most) (element : Assertion) :
    (∃ a, (arrayOf element rules factory).result = .ok a) ↔ 0 ≤ least ∧ least ≤ most := by
  rw [arrayOf_eq h]
  by_cases hcross : most < least
  · simp only [hcross, if_true, not_le_of_gt hcross, and_false, iff_false]
    exact fun ⟨a, ha⟩ => Check.fail_ne_ok _ _ factory a ha
  · by_cases hnegative : least < 0
    · simp only [hcross, hnegative, if_true, if_false, Int.not_le.mpr hnegative, false_and,
        iff_false]
      exact fun ⟨a, ha⟩ => Check.fail_ne_ok _ _ factory a ha
    · simp only [hcross, hnegative, if_false]
      exact ⟨fun _ => ⟨Int.not_lt.mp hnegative, not_lt.mp hcross⟩, fun _ => ⟨_, rfl⟩⟩

/-- Where bounds cross, every length is refused at one end or the other. -/
theorem refused_of_crossing {α : Type} (hcross : most < least) (n : Nat)
    (short long rest : Check α) :
    (if (n : Int) < least then short else if most < (n : Int) then long else rest) = short ∨
      (if (n : Int) < least then short else if most < (n : Int) then long else rest) = long := by
  by_cases hshort : (n : Int) < least
  · exact Or.inl (if_pos hshort)
  · have hlong : most < (n : Int) :=
      lt_of_lt_of_le hcross (WithTop.coe_le_coe.mpr (Int.not_lt.mp hshort))
    exact Or.inr ((if_neg hshort).trans (if_pos hlong))

theorem assertArray_raises_of_crossing (h : rules.bounds.Mean least most) (hcross : most < least)
    (element : Assertion) {v : Value} {items : List Value} (hv : v.array? = some items)
    (c : Context) : ∃ raised, (assertArray element rules v c factory).result = .error raised := by
  rw [assertArray_eq h element hv]
  rcases refused_of_crossing hcross items.length _ _ _ with hrefused | hrefused
  · rw [hrefused]
    exact Check.fail_raises _ _ factory
  · rw [hrefused]
    exact Check.fail_raises _ _ factory

theorem run_boundedText_raises_of_crossing {b : Bounds} (h : b.Mean least most)
    (hcross : most < least) (position : Position) (s : String) (c : Context) :
    ∃ raised, ((boundedText b).run position (.text s) c factory).result = .error raised := by
  rw [run_boundedText_eq h]
  rcases refused_of_crossing hcross s.length _ _ _ with hrefused | hrefused
  · rw [hrefused]
    exact Check.fail_raises _ _ factory
  · rw [hrefused]
    exact Check.fail_raises _ _ factory

end Refused

/-- Bounds are inclusive at both ends. An array is built with them if they neither cross nor begin
    below zero; then it is the check of arrays under the same rules, and some length fits. Where
    they do both it is said that they cross, as far as the bounds can be written. A length that fits
    is checked no further, and one that does not is reported before anything else is looked at, as
    too short where it is both. Where bounds cross that nobody looked at before, neither an array
    nor a text is let pass. -/
theorem lengths_inclusive (h : rules.bounds.Mean least most) (element : Assertion)
    (factory : ErrorFactory) :
    ((∃ a, (arrayOf element rules factory).result = .ok a) ↔ 0 ≤ least ∧ least ≤ most) ∧
    (most < least → (arrayOf element rules factory).result =
      .error (.ofReport factory (crossingComplaint rules.bounds))) ∧
    (least ≤ most → least < 0 → (arrayOf element rules factory).result =
      .error (.ofReport factory (negativeComplaint "min_length" rules.bounds.lower))) ∧
    (rules.bounds.IsWritable → ∃ lower upper, rules.bounds.lower.plain = .ok lower ∧
      rules.bounds.upper.plain = .ok upper ∧
      crossingComplaint rules.bounds = .ok ("min_length must be <= max_length! min_length: " ++
        lower ++ ", max_length: " ++ upper) ∧
      negativeComplaint "min_length" rules.bounds.lower =
        .ok ("min_length must be a positive number: " ++ lower)) ∧
    (0 ≤ least → least ≤ most → arrayOf element rules = pure (array element rules) ∧
      (∀ v context, (array element rules).apply v context =
        assertArray element rules v (context.getD (.root none))) ∧
      (∀ position v c, (array element rules).run position v c = assertArray element rules v c) ∧
      ∃ n, IsWithin least most n) ∧
    (∀ v items, v.array? = some items → ∀ c : Context,
      (IsWithin least most items.length → assertArray element rules v c =
        assertArray element { rules with bounds := .unbounded } v c) ∧
      ((items.length : Int) < least → assertArray element rules v c =
        c.failUnder (arrayComplaint rules.bounds items.length .tooShort)) ∧
      (least ≤ items.length → most < (items.length : Int) → assertArray element rules v c =
        c.failUnder (arrayComplaint rules.bounds items.length .tooLong))) ∧
    (∀ position (s : String) (c : Context),
      (IsWithin least most s.length →
        (boundedText rules.bounds).run position (.text s) c = pure ()) ∧
      ((s.length : Int) < least → (boundedText rules.bounds).run position (.text s) c =
        c.failAt (textComplaint rules.bounds s.length .tooShort)) ∧
      (least ≤ s.length → most < (s.length : Int) →
        (boundedText rules.bounds).run position (.text s) c =
          c.failAt (textComplaint rules.bounds s.length .tooLong))) ∧
    (most < least → ∀ c,
      (∀ v items, v.array? = some items →
        ∃ raised, (assertArray element rules v c factory).result = .error raised) ∧
      ∀ position s, ∃ raised,
        ((boundedText rules.bounds).run position (.text s) c factory).result = .error raised) := by
  refine ⟨arrayOf_ok_iff h element, fun hcross => ?_, fun hmost hnegative => ?_,
    complaints_of_isWritable, fun hleast hmost => ⟨?_, fun v context => ?_, fun _ _ _ => rfl,
      exists_isWithin hleast hmost⟩,
    fun v items hv c => ?_, fun position s c => ?_, fun hcross c =>
      ⟨fun v items hv => assertArray_raises_of_crossing h hcross element hv c,
        fun position s => run_boundedText_raises_of_crossing h hcross position s c⟩⟩
  · rw [arrayOf_eq h, if_pos hcross]
    exact Check.failText_ofExcept_raises (crossingComplaint_ne_empty _)
  · rw [arrayOf_eq h, if_neg (not_lt_of_ge hmost), if_pos hnegative]
    exact Check.failText_ofExcept_raises (negativeComplaint_ne_empty _ _)
  · rw [arrayOf_eq h, if_neg (not_lt_of_ge hmost), if_neg (Int.not_lt.mpr hleast)]
  · cases context <;> rfl
  · rw [assertArray_eq h element hv]
    exact ⟨fun hwithin => (if_neg (Int.not_lt.mpr hwithin.1)).trans
        (if_neg (not_lt_of_ge hwithin.2)),
      fun hshort => if_pos hshort,
      fun hleast hlong => (if_neg (Int.not_lt.mpr hleast)).trans (if_pos hlong)⟩
  · rw [run_boundedText_eq h]
    exact ⟨fun hwithin => (if_neg (Int.not_lt.mpr hwithin.1)).trans
        (if_neg (not_lt_of_ge hwithin.2)),
      fun hshort => if_pos hshort,
      fun hleast hlong => (if_neg (Int.not_lt.mpr hleast)).trans (if_pos hlong)⟩

/-- A least length of too many digits is above a largest one, but that is not reported. -/
theorem overlong_bound_unreported :
    ¬∃ message : String, (arrayOf (primitive .number) ⟨⟨.overlong, .int 3⟩, none⟩
      .standard).result = .error (ErrorFactory.standard message []) := by
  have hmean : (Bounds.mk .overlong (.int 3)).Mean (Int.ofNat (Nat.pow 10 Grouped.mostDigits))
      (3 : Int) := ⟨.number rfl, .number rfl⟩
  have hcross : ((3 : Int) : WithTop Int) < Int.ofNat (Nat.pow 10 Grouped.mostDigits) :=
    WithTop.coe_lt_coe.mpr (Int.ofNat_lt.mpr
      (Nat.lt_of_lt_of_le (by decide) (Value.ten_le_pow Value.mostDigits_pos)))
  have hcomplaint : crossingComplaint ⟨.overlong, .int 3⟩ = .error .integerTooLong := by
    have hlower : Bounds.lower ⟨.overlong, .int 3⟩ = .overlong := if_pos Value.overlong_isTruthy
    rw [crossingComplaint, hlower, Value.plain_overlong]
    rfl
  rintro ⟨message, hreported⟩
  rw [arrayOf_eq hmean, if_pos hcross, hcomplaint] at hreported
  exact nomatch hreported

/-- Bounds that no length fits: at least five elements, and at most three. -/
theorem lengths_inclusive_crossing :
    (Bounds.mk (.int 5) (.int 3)).Mean 5 (3 : Int) ∧ ((3 : Int) : WithTop Int) < (5 : Int) ∧
      (∀ factory, (arrayOf (primitive .number) ⟨⟨.int 5, .int 3⟩, none⟩ factory).result =
        .error (factory "min_length must be <= max_length! min_length: 5, max_length: 3" [])) ∧
      ∀ factory, ∃ raised, (assertArray (primitive .number) ⟨⟨.int 5, .int 3⟩, none⟩
        (.list .converted [.int 1, .int 2, .int 3, .int 4]) (.root none) factory).result =
          .error raised := by
  have h : (Bounds.mk (.int 5) (.int 3)).Mean 5 (3 : Int) := ⟨.number rfl, .number rfl⟩
  have hcross : ((3 : Int) : WithTop Int) < (5 : Int) := WithTop.coe_lt_coe.mpr (by decide)
  refine ⟨h, hcross, fun factory => ?_, fun factory => ?_⟩
  · rcases @lengths_inclusive ⟨⟨.int 5, .int 3⟩, none⟩ 5 (3 : Int) h (primitive .number) factory
      with ⟨-, hbuilt, -⟩
    exact hbuilt hcross
  · rcases @lengths_inclusive ⟨⟨.int 5, .int 3⟩, none⟩ 5 (3 : Int) h (primitive .number) factory
      with ⟨-, -, -, -, -, -, -, hrefused⟩
    exact (hrefused hcross (.root none)).1 _ _ rfl

end Assertion

end Attest
