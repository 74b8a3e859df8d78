import Mathlib.Algebra.Order.Ring.Unbundled.Rat
import Mathlib.Tactic.Ring
import Attest.Value.Basic

/-!
# Worth

Numbers of all kinds are compared by what they are worth, and this is an equivalence.

Between integers, fractions and binary numbers there is nothing to show, as they are compared as
rationals. A decimal is compared with a rational by its digits, so that no large power of ten is
formed, and two decimals by their normal forms. `SameSize` puts the first comparison as an equation
between naturals. A coefficient without trailing zeros and its exponent are the only ones that solve
it for a rational, and the rational is the only one that they solve it for. Therefore two decimals
that equal one rational equal each other, and two rationals that equal one decimal are one.

## Main definitions

* `Scientific.SameSize`: A decimal and a quotient are of one size.
* `Measure`: What a scalar is compared by.
* `Value.measure?`: What a value is compared by, if by its worth.

## Theorems

* `stripped_mod`, `stripped_zero`: A stripped coefficient has no trailing zeros.
* `SameSize.quotient_unique`, `SameSize.decimal_unique`: Each side determines the other one.
* `beqOf_unique`: A decimal equals one worth at most.
* `beq_of_beqOf`: Decimals of one worth are equal.
* `Measure.agrees_comm`, `Measure.agrees_trans`: Agreement is symmetric and transitive.
* `sameWorth_iff`: Values are worth the same if they are numbers whose measures agree.
-/

namespace Attest

namespace Scientific

theorem stripped_zero (e : Int) : stripped 0 e = (0, 0) := by
  rw [stripped, dif_neg fun h => h.1 rfl, if_pos rfl]

theorem stripped_mod {c : Nat} (hc : c ≠ 0) (e : Int) : (stripped c e).1 % 10 ≠ 0 := by
  fun_induction stripped c e with
  | case1 c e h ih => exact ih (by omega)
  | case2 c e h => omega

/-- The decimal `c · 10 ^ e` and the quotient `n / d` are of one size. -/
def SameSize (c : Nat) (e : Int) (n d : Nat) : Prop :=
  c * 10 ^ e.toNat * d = n * 10 ^ (-e).toNat

theorem sameSize_of_isQuotient {c n d : Nat} {e : Int} (h : isQuotient c e n d = true) :
    SameSize c e n d := by
  unfold isQuotient at h
  unfold SameSize
  split at h
  · next he =>
      simp only [Bool.and_eq_true, decide_eq_true_eq] at h
      rcases h with ⟨rfl, _, rfl⟩
      have hneg : (-e).toNat = 0 := by omega
      rw [hneg, Nat.pow_zero, Nat.mul_one, Nat.mul_one]
      rfl
  · next he =>
      simp only [Bool.and_eq_true, decide_eq_true_eq] at h
      have hpos : e.toNat = 0 := by omega
      rw [hpos, Nat.pow_zero, Nat.mul_one]
      exact h.2

theorem SameSize.ne_zero {c n d : Nat} {e : Int} (h : SameSize c e n d) (hc : c ≠ 0) (hd : d ≠ 0) :
    n ≠ 0 := by
  rintro rfl
  unfold SameSize at h
  rw [Nat.zero_mul] at h
  have hpow : 10 ^ e.toNat ≠ 0 := (Nat.pow_pos (by decide)).ne'
  exact Nat.mul_ne_zero (Nat.mul_ne_zero hc hpow) hd h

/-- One decimal is of the size of one quotient. -/
theorem SameSize.quotient_unique {c n d n' d' : Nat} {e : Int} (h : SameSize c e n d)
    (h' : SameSize c e n' d') : n * d' = n' * d := by
  have hpow : 0 < 10 ^ (-e).toNat := Nat.pow_pos (by decide)
  refine Nat.eq_of_mul_eq_mul_right hpow ?_
  calc n * d' * 10 ^ (-e).toNat = n * 10 ^ (-e).toNat * d' := Nat.mul_right_comm _ _ _
    _ = c * 10 ^ e.toNat * d * d' := by rw [← h]
    _ = c * 10 ^ e.toNat * d' * d := Nat.mul_right_comm _ _ _
    _ = n' * 10 ^ (-e).toNat * d := by rw [h']
    _ = n' * d * 10 ^ (-e).toNat := Nat.mul_right_comm _ _ _

/-- Without trailing zeros, no power of ten can move between coefficient and exponent. -/
theorem eq_of_mul_pow_ten {c c' k k' : Nat} (hc : c % 10 ≠ 0) (hc' : c' % 10 ≠ 0)
    (h : c * 10 ^ k = c' * 10 ^ k') : c = c' ∧ k = k' := by
  have hle : ∀ {c c' k k' : Nat}, c' % 10 ≠ 0 → c * 10 ^ k = c' * 10 ^ k' → k ≤ k' := by
    intro c c' k k' hc' h
    by_contra hlt
    obtain ⟨m, rfl⟩ : ∃ m, k = k' + 1 + m := ⟨k - k' - 1, by omega⟩
    have hten : c * 10 ^ m * 10 = c' := by
      refine Nat.eq_of_mul_eq_mul_right (Nat.pow_pos (by decide) : 0 < 10 ^ k') ?_
      rw [← h, Nat.pow_add, Nat.pow_succ]
      ring
    omega
  have hk : k = k' := Nat.le_antisymm (hle hc' h) (hle hc h.symm)
  subst hk
  exact ⟨Nat.eq_of_mul_eq_mul_right (Nat.pow_pos (by decide)) h, rfl⟩

/-- One quotient is of the size of one decimal without trailing zeros. -/
theorem SameSize.decimal_unique {c c' n d : Nat} {e e' : Int} (hc : c % 10 ≠ 0) (hc' : c' % 10 ≠ 0)
    (hd : 0 < d) (h : SameSize c e n d) (h' : SameSize c' e' n d) : c = c' ∧ e = e' := by
  have hpow : c * 10 ^ (e.toNat + (-e').toNat) = c' * 10 ^ (e'.toNat + (-e).toNat) := by
    refine Nat.eq_of_mul_eq_mul_right hd ?_
    calc c * 10 ^ (e.toNat + (-e').toNat) * d = c * 10 ^ e.toNat * d * 10 ^ (-e').toNat := by ring
      _ = n * 10 ^ (-e).toNat * 10 ^ (-e').toNat := by rw [h]
      _ = n * 10 ^ (-e').toNat * 10 ^ (-e).toNat := Nat.mul_right_comm _ _ _
      _ = c' * 10 ^ e'.toNat * d * 10 ^ (-e).toNat := by rw [h']
      _ = c' * 10 ^ (e'.toNat + (-e).toNat) * d := by ring
  rcases eq_of_mul_pow_ten hc hc' hpow with ⟨hcoefficient, hexponent⟩
  exact ⟨hcoefficient, by omega⟩

/-- A rational is given by its sign and its size. -/
theorem eq_of_sameSize {p q : Rat} (hsign : p < 0 ↔ q < 0)
    (hsize : p.num.natAbs * q.den = q.num.natAbs * p.den) : p = q := by
  have hcast : (p.num.natAbs : Int) * q.den = q.num.natAbs * p.den := by exact_mod_cast hsize
  rw [Rat.eq_iff_mul_eq_mul]
  by_cases hp : p < 0
  · have hpneg : (p.num.natAbs : Int) = -p.num := Int.ofNat_natAbs_of_nonpos (Rat.num_neg.mpr hp).le
    have hqneg : (q.num.natAbs : Int) = -q.num :=
      Int.ofNat_natAbs_of_nonpos (Rat.num_neg.mpr (hsign.mp hp)).le
    rw [hpneg, hqneg, Int.neg_mul, Int.neg_mul] at hcast
    exact Int.neg_inj.mp hcast
  · have hppos : (p.num.natAbs : Int) = p.num :=
      Int.natAbs_of_nonneg (not_lt.mp (mt Rat.num_neg.mp hp))
    have hqpos : (q.num.natAbs : Int) = q.num :=
      Int.natAbs_of_nonneg (not_lt.mp (mt Rat.num_neg.mp (mt hsign.mpr hp)))
    rwa [hppos, hqpos] at hcast

/-- A finite decimal and a rational that are equal are both zero, or have one sign and one size. -/
theorem parts_of_beqOf {s : Bool} {c : Nat} {e : Int} {q : Rat}
    (h : (finite s c e).beqOf (.finite q) = true) :
    (c = 0 ∧ q = 0) ∨ (c ≠ 0 ∧ q ≠ 0 ∧ (s = true ↔ q < 0) ∧
      SameSize (stripped c e).1 (stripped c e).2 q.num.natAbs q.den) := by
  by_cases hc : c = 0
  · subst hc
    simp only [beqOf, normal, stripped_zero, if_true, decide_eq_true_eq] at h
    exact Or.inl ⟨rfl, h⟩
  · have hne : (stripped c e).1 ≠ 0 := fun hzero => stripped_mod hc e (by rw [hzero])
    simp only [beqOf, normal, if_neg hne, decide_eq_true hc, Bool.and_true, Bool.and_eq_true,
      decide_eq_true_eq] at h
    have hsize := sameSize_of_isQuotient h.2
    have hq : q ≠ 0 := by
      rintro rfl
      exact hsize.ne_zero hne (by decide) rfl
    exact Or.inr ⟨hc, hq, by rw [h.1, decide_eq_true_eq], hsize⟩

/-- A decimal equals one worth at most. -/
theorem beqOf_unique {d : Scientific} {x y : Extended} (hx : d.beqOf x = true)
    (hy : d.beqOf y = true) : x = y := by
  cases d with
  | finite s c e =>
      cases x with
      | finite p =>
          cases y with
          | finite q =>
              rcases parts_of_beqOf hx with ⟨hc, hp⟩ | ⟨hc, _, hp, hpsize⟩
              · rcases parts_of_beqOf hy with ⟨_, hq⟩ | ⟨hne, _⟩
                · rw [hp, hq]
                · exact absurd hc hne
              · rcases parts_of_beqOf hy with ⟨hzero, _⟩ | ⟨_, _, hq, hqsize⟩
                · exact absurd hzero hc
                · rw [eq_of_sameSize (hp.symm.trans hq) (hpsize.quotient_unique hqsize)]
          | infinite | nan => exact absurd hy Bool.false_ne_true
      | infinite | nan => exact absurd hx Bool.false_ne_true
  | infinite m =>
      cases x with
      | infinite n =>
          cases y with
          | infinite k =>
              simp only [beqOf, decide_eq_true_eq] at hx hy
              rw [← hx, ← hy]
          | finite | nan => exact absurd hy Bool.false_ne_true
      | finite | nan => exact absurd hx Bool.false_ne_true
  | nan => exact absurd hx Bool.false_ne_true

/-- Decimals that equal one worth equal each other. -/
theorem beq_of_beqOf {c d : Scientific} {x : Extended} (hc : c.beqOf x = true)
    (hd : d.beqOf x = true) : c.beq d = true := by
  cases x with
  | finite q =>
      cases c with
      | finite s c e =>
          cases d with
          | finite t d f =>
              rw [beq, decide_eq_true_eq, normal, normal]
              rcases parts_of_beqOf hc with ⟨rfl, hq⟩ | ⟨hne, hq, hs, hsize⟩
              · rcases parts_of_beqOf hd with ⟨rfl, _⟩ | ⟨_, hother, _⟩
                · simp only [stripped_zero, ne_eq, not_true_eq_false, decide_false, Bool.and_false]
                · exact absurd hq hother
              · rcases parts_of_beqOf hd with ⟨_, hother⟩ | ⟨hne', _, ht, hsize'⟩
                · exact absurd hother hq
                · have hsign : s = t := Bool.eq_iff_iff.mpr (hs.trans ht.symm)
                  rcases hsize.decimal_unique (stripped_mod hne e) (stripped_mod hne' f) q.den_pos
                    hsize' with ⟨hcoefficient, hexponent⟩
                  rw [hsign, decide_eq_true hne, decide_eq_true hne',
                    Prod.ext hcoefficient hexponent]
          | infinite | nan => exact absurd hd Bool.false_ne_true
      | infinite | nan => exact absurd hc Bool.false_ne_true
  | infinite m =>
      cases c with
      | infinite n =>
          cases d with
          | infinite k =>
              simp only [beqOf, beq, decide_eq_true_eq] at hc hd ⊢
              rw [hc, hd]
          | finite | nan => exact absurd hd Bool.false_ne_true
      | finite | nan => exact absurd hc Bool.false_ne_true
  | nan => cases c <;> exact absurd hc Bool.false_ne_true

theorem beq_comm (c d : Scientific) : c.beq d = d.beq c := by
  cases c <;> cases d <;> simp only [beq, eq_comm]

theorem beq_trans {b c d : Scientific} (hbc : b.beq c = true) (hcd : c.beq d = true) :
    b.beq d = true := by
  cases b <;> cases c <;> cases d <;>
    simp only [beq, decide_eq_true_eq, Bool.false_eq_true] at hbc hcd ⊢ <;> exact hbc.trans hcd

/-- Equal decimals equal the same worths. -/
theorem beqOf_of_beq {c d : Scientific} {x : Extended} (hcd : c.beq d = true)
    (hd : d.beqOf x = true) : c.beqOf x = true := by
  cases c with
  | finite s c e =>
      cases d with
      | finite t d f =>
          cases x with
          | finite q =>
              rw [beq, decide_eq_true_eq] at hcd
              rwa [beqOf, hcd]
          | infinite | nan => exact hd
      | infinite | nan => exact absurd hcd Bool.false_ne_true
  | infinite m =>
      cases d with
      | infinite n => rwa [of_decide_eq_true hcd]
      | finite | nan => exact absurd hcd Bool.false_ne_true
  | nan => exact absurd hcd Bool.false_ne_true

end Scientific

/-- What a scalar is compared by. -/
inductive Measure where
  /-- The exact worth of a number. -/
  | exact (x : Extended)
  | decimal (d : Scientific)
  /-- A point in time, whatever it came out of. -/
  | instant (t : DateTime)

/-- Whether two scalars are equal by what they are compared by. -/
def Measure.agrees : Measure → Measure → Bool
  | exact x, exact y => x.beq y
  | decimal c, decimal d => c.beq d
  | exact x, decimal d => d.beqOf x
  | decimal c, exact y => c.beqOf y
  | instant s, instant t => s.beq t
  | _, _ => false

theorem Measure.agrees_comm (m n : Measure) : m.agrees n = n.agrees m := by
  cases m with
  | exact x =>
      cases n with
      | exact y =>
          rw [agrees, agrees, Bool.eq_iff_iff, Extended.beq_eq_true_iff, Extended.beq_eq_true_iff]
          exact ⟨fun h => ⟨h.1.symm, h.1 ▸ h.2⟩, fun h => ⟨h.1.symm, h.1 ▸ h.2⟩⟩
      | decimal | instant => rfl
  | decimal c =>
      cases n with
      | decimal d => exact c.beq_comm d
      | exact | instant => rfl
  | instant s =>
      cases n with
      | instant t => simp only [agrees, DateTime.beq, eq_comm]
      | exact | decimal => rfl

/-- Agreement goes on. Where decimals meet other numbers, it does so because one worth stands in
    the middle, or because one decimal has one worth. -/
theorem Measure.agrees_trans {l m n : Measure} (hlm : l.agrees m = true) (hmn : m.agrees n = true) :
    l.agrees n = true := by
  cases m with
  | exact x =>
      cases l with
      | exact w =>
          rw [agrees, Extended.beq_eq_true_iff] at hlm
          rwa [hlm.1]
      | decimal c =>
          cases n with
          | exact y =>
              rw [agrees, Extended.beq_eq_true_iff] at hmn
              rwa [← hmn.1]
          | decimal d => exact Scientific.beq_of_beqOf hlm hmn
          | instant => exact absurd hmn Bool.false_ne_true
      | instant => exact absurd hlm Bool.false_ne_true
  | decimal d =>
      cases l with
      | exact w =>
          cases n with
          | exact y =>
              have hsame : w = y := Scientific.beqOf_unique hlm hmn
              rw [agrees, Extended.beq_eq_true_iff]
              refine ⟨hsame, ?_⟩
              rintro rfl
              cases d <;> exact absurd hlm Bool.false_ne_true
          | decimal e => exact Scientific.beqOf_of_beq (e.beq_comm d ▸ hmn) hlm
          | instant => exact absurd hmn Bool.false_ne_true
      | decimal c =>
          cases n with
          | exact y => exact Scientific.beqOf_of_beq hlm hmn
          | decimal e => exact Scientific.beq_trans hlm hmn
          | instant => exact absurd hmn Bool.false_ne_true
      | instant => exact absurd hlm Bool.false_ne_true
  | instant t =>
      cases l with
      | instant s =>
          cases n with
          | instant u =>
              simp only [agrees, DateTime.beq, Bool.and_eq_true, decide_eq_true_eq] at hlm hmn ⊢
              exact ⟨hlm.1.trans hmn.1, hlm.2.trans hmn.2⟩
          | exact | decimal => exact absurd hmn Bool.false_ne_true
      | exact | decimal => exact absurd hlm Bool.false_ne_true

namespace Value

/-- What a number is compared by. -/
def number? : Value → Option Measure
  | decimal _ d => some (.decimal d)
  | v => v.worth?.map .exact

/-- What a value is compared by, if it is a number or a point in time. -/
def measure? : Value → Option Measure
  | dateTime t | timestamp t => some (.instant t)
  | v => v.number?

/-- Two values have measures that agree. -/
def Agree (a b : Value) : Prop :=
  ∃ m n, a.measure? = some m ∧ b.measure? = some n ∧ m.agrees n = true

theorem Agree.symm {a b : Value} (h : a.Agree b) : b.Agree a := by
  rcases h with ⟨m, n, ha, hb, hagrees⟩
  exact ⟨n, m, hb, ha, n.agrees_comm m ▸ hagrees⟩

theorem Agree.trans {a b c : Value} (hab : a.Agree b) (hbc : b.Agree c) : a.Agree c := by
  rcases hab with ⟨l, m, ha, hb, hlm⟩
  rcases hbc with ⟨m', n, hb', hc, hmn⟩
  rw [hb, Option.some.injEq] at hb'
  exact ⟨l, n, ha, hc, Measure.agrees_trans hlm (hb' ▸ hmn)⟩

/-- A number is a decimal, or its worth is exact. -/
theorem number?_cases (v : Value) : (∃ id d, v = decimal id d) ∨
    ((∀ id d, v = decimal id d → False) ∧ v.number? = v.worth?.map .exact) := by
  cases v with
  | decimal id d => exact Or.inl ⟨id, d, rfl⟩
  | _ => exact Or.inr ⟨by simp, rfl⟩

/-- Values are worth the same if and only if they are numbers whose measures agree. -/
theorem sameWorth_iff (a b : Value) : a.sameWorth b = true ↔
    ∃ m n, a.number? = some m ∧ b.number? = some n ∧ m.agrees n = true := by
  rcases a.number?_cases with ⟨i, c, rfl⟩ | ⟨ha, hanumber⟩
  · rcases b.number?_cases with ⟨j, d, rfl⟩ | ⟨hb, hbnumber⟩
    · simp [sameWorth, number?, Measure.agrees]
    · rw [sameWorth.eq_2 b i c hb, hbnumber]
      simp [number?, Measure.agrees, Option.any_eq_true]
  · rcases b.number?_cases with ⟨j, d, rfl⟩ | ⟨hb, hbnumber⟩
    · rw [sameWorth.eq_3 a j d ha, hanumber]
      simp [number?, Measure.agrees, Option.any_eq_true]
    · rw [sameWorth.eq_4 a b ha hb fun i c _ _ h _ => ha i c h, hanumber, hbnumber]
      rcases a.worth? with _ | x
      · simp
      · rcases b.worth? with _ | y
        · simp
        · simp [Measure.agrees]

theorem measure?_of_number? {v : Value} {m : Measure} (h : v.number? = some m) :
    v.measure? = some m := by
  cases v with
  | dateTime | timestamp => exact absurd h (by simp [number?, worth?])
  | _ => exact h

theorem number?_of_measure? {v : Value} {m : Measure} (h : v.measure? = some m) :
    (∃ t, m = .instant t) ∨ v.number? = some m := by
  cases v with
  | dateTime t | timestamp t => exact Or.inl ⟨t, (Option.some.inj h).symm⟩
  | _ => exact Or.inr h

/-- Measures agree of numbers that are worth the same, and of points in time that are one. -/
theorem agree_iff (a b : Value) : a.Agree b ↔ a.sameWorth b = true ∨
    ∃ s t, a.measure? = some (.instant s) ∧ b.measure? = some (.instant t) ∧ s.beq t = true := by
  rw [sameWorth_iff]
  constructor
  · rintro ⟨m, n, ha, hb, hagrees⟩
    rcases number?_of_measure? ha with ⟨s, rfl⟩ | hanumber
    · cases n with
      | instant t => exact Or.inr ⟨s, t, ha, hb, hagrees⟩
      | exact | decimal => exact absurd hagrees Bool.false_ne_true
    · rcases number?_of_measure? hb with ⟨t, rfl⟩ | hbnumber
      · cases m with
        | instant s => exact Or.inr ⟨s, t, ha, hb, hagrees⟩
        | exact | decimal => exact absurd hagrees Bool.false_ne_true
      · exact Or.inl ⟨m, n, hanumber, hbnumber, hagrees⟩
  · rintro (⟨m, n, ha, hb, hagrees⟩ | ⟨s, t, ha, hb, hbeq⟩)
    · exact ⟨m, n, measure?_of_number? ha, measure?_of_number? hb, hagrees⟩
    · exact ⟨_, _, ha, hb, hbeq⟩

end Value

end Attest
