import Mathlib.Data.List.Forall2
import Attest.Primitive
import Attest.Text.Blank
import Attest.Text.Quoted

/-!
# The Texts of Identifiers

The texts that have the form of an identifier, said by the numbers that they stand for.

The form is a row of character classes, and nothing in it says that a text with this form is a
number. It is one of 128 bits, written with all its 32 hexadecimal digits and with hyphens between
the groups. Two of the digits are not free: one of them is the version, and the other begins with
the two bits of the variant. `forall₂_digitClasses_iff` finds the places of these digits in the
number, and `separated` takes the hyphens out of classes and texts alike, so that the two sides meet
in a list of 32 digits.

Case does not count where a text is held against the form. That rests on the small forms of all
characters, not only of the plain letters, and so there could be texts with other letters in them
that have the form too. There are none: `caseless_cases` says that making `A` to `F` small has the
same effect on everything that may stand in an identifier.

## Main definitions

* `Text.hexPlaces`: The hexadecimal digits in the lowest places of a number.
* `separated`: Members in groups, with a separator between the groups.
* `digitClasses`: The classes of the form without those of the hyphens.
* `lowered`, `loweredText`: A character and a text with `A` to `F` made small.
* `raisedText`: A text with capital letters in some places.
* `IsNumber`: The numbers that identifiers stand for.
* `written`: A number, written as an identifier.

## Theorems

* `hexDigits_eq_hexPlaces`: A number that fits is written in its lowest places.
* `hexPlaces_inj`, `exists_hexPlaces`: Digits stand for one number.
* `caseless_cases`, `fits_iff`: What case does for the form.
* `forall₂_separated_iff`, `separated_inj`: Separators may be taken out.
* `forall₂_digitClasses_iff`: The digits that are not free.
* `isUuid_iff`: The texts that have the form.
* `uuid_holds_iff`: The values that are identifiers.
-/

namespace Attest

namespace Text

section Places

variable {k m n : Nat}

/-- The hexadecimal digits in the lowest places of a number, the highest of these places first. -/
def hexPlaces : Nat → Nat → List Char
  | 0, _ => []
  | k + 1, n => Nat.digitChar (n / Nat.pow 16 k % 16) :: hexPlaces k n

theorem length_hexPlaces (k n : Nat) : (hexPlaces k n).length = k := by
  induction k with
  | zero => rfl
  | succ k ih => rw [hexPlaces, List.length_cons, ih]

theorem hexPlaces_add (j k n : Nat) :
    hexPlaces (j + k) n = hexPlaces j (n / Nat.pow 16 k) ++ hexPlaces k n := by
  induction j with
  | zero => rw [Nat.zero_add, hexPlaces, List.nil_append]
  | succ j ih =>
      have hpow : Nat.pow 16 (j + k) = Nat.pow 16 k * Nat.pow 16 j :=
        (congrArg (Nat.pow 16) (Nat.add_comm j k)).trans (Nat.pow_add 16 k j)
      rw [Nat.add_right_comm, hexPlaces, hexPlaces, ih, hpow, Nat.div_div_eq_div_mul,
        List.cons_append]

/-- What stands in higher places does not matter. -/
theorem hexPlaces_mod (k n : Nat) : hexPlaces k (n % Nat.pow 16 k) = hexPlaces k n := by
  induction k generalizing n with
  | zero => rfl
  | succ k ih =>
      have hpow : Nat.pow 16 (k + 1) = Nat.pow 16 k * 16 := rfl
      have hplace : n % Nat.pow 16 (k + 1) / Nat.pow 16 k % 16 = n / Nat.pow 16 k % 16 := by
        rw [hpow, Nat.mod_mul_right_div_self, Nat.mod_mod]
      have hlower : n % Nat.pow 16 (k + 1) % Nat.pow 16 k = n % Nat.pow 16 k := by
        rw [hpow, Nat.mod_mul_right_mod]
      rw [hexPlaces, hexPlaces, hplace, ← ih (n % _), hlower, ih]

/-- Digits that are filled up with zeros are those of the quotient and a last one. -/
theorem hexDigits_succ (hk : 0 < k) (n : Nat) :
    hexDigits (k + 1) n = hexDigits k (n / 16) ++ [Nat.digitChar (n % 16)] := by
  unfold hexDigits
  by_cases hn : n < 16
  · -- The quotient is zero, which is written as one of the zeros in front.
    have hzeros : List.replicate k '0' = List.replicate (k - 1) '0' ++ ['0'] := by
      rw [← List.replicate_succ', Nat.sub_add_cancel hk]
    simp only [Nat.toDigits_of_lt_base hn, Nat.div_eq_of_lt hn, Nat.mod_eq_of_lt hn,
      Nat.toDigits_zero, List.length_singleton, Nat.add_sub_cancel, hzeros]
  · simp only [Nat.toDigits_of_base_le (by decide) (Nat.le_of_not_lt hn), List.length_append,
      List.length_singleton, Nat.add_sub_add_right, List.append_assoc]

/-- A number that fits is written in its lowest places. -/
theorem hexDigits_eq_hexPlaces (hk : 0 < k) (h : n < Nat.pow 16 k) :
    hexDigits k n = hexPlaces k n := by
  induction k generalizing n with
  | zero => exact absurd hk (Nat.lt_irrefl 0)
  | succ k ih =>
      have hlast : hexPlaces 1 n = [Nat.digitChar (n % 16)] := by
        have hone : n / Nat.pow 16 0 = n := Nat.div_one n
        rw [hexPlaces, hone, hexPlaces]
      rcases Nat.eq_zero_or_pos k with rfl | hpos
      · -- Zero has a digit too, so the shortest width is one.
        have hn : n < 16 := h
        rw [hlast, Nat.mod_eq_of_lt hn, hexDigits, Nat.toDigits_of_lt_base hn]
        rfl
      · have hfits : n / 16 < Nat.pow 16 k :=
          Nat.div_lt_of_lt_mul (Nat.lt_of_lt_of_eq h (Nat.mul_comm _ _))
        have hsixteen : Nat.pow 16 1 = 16 := rfl
        rw [hexDigits_succ hpos, ih hpos hfits, hexPlaces_add k 1, hlast, hsixteen]

theorem digitChar_inj : ∀ v < 16, ∀ w < 16, Nat.digitChar v = Nat.digitChar w → v = w := by
  decide

/-- Numbers that fit and have the same digits are the same. -/
theorem hexPlaces_inj (hm : m < Nat.pow 16 k) (hn : n < Nat.pow 16 k)
    (h : hexPlaces k m = hexPlaces k n) : m = n := by
  induction k generalizing m n with
  | zero => exact (Nat.lt_one_iff.mp hm).trans (Nat.lt_one_iff.mp hn).symm
  | succ k ih =>
      rcases List.cons.inj h with ⟨hdigit, hrest⟩
      have hpos : 0 < Nat.pow 16 k := Nat.pow_pos (by decide)
      have hplace : m / Nat.pow 16 k = n / Nat.pow 16 k := by
        have hsame := digitChar_inj _ (Nat.mod_lt _ (by decide)) _ (Nat.mod_lt _ (by decide)) hdigit
        rwa [Nat.mod_eq_of_lt (Nat.div_lt_of_lt_mul hm),
          Nat.mod_eq_of_lt (Nat.div_lt_of_lt_mul hn)] at hsame
      have hlower : m % Nat.pow 16 k = n % Nat.pow 16 k := by
        refine ih (Nat.mod_lt m hpos) (Nat.mod_lt n hpos) ?_
        rw [hexPlaces_mod, hexPlaces_mod, hrest]
      rw [← Nat.div_add_mod m (Nat.pow 16 k), hplace, hlower, Nat.div_add_mod]

end Places

end Text

namespace Uuid

section Digits

theorem isDigit_iff {d : Char} : isDigit d = true ↔
    (0x30 ≤ d.toNat ∧ d.toNat ≤ 0x39) ∨ (0x61 ≤ d.toNat ∧ d.toNat ≤ 0x66) := by
  simp only [isDigit, Bool.or_eq_true, Bool.and_eq_true, decide_eq_true_eq]
  rfl

theorem isDigit_digitChar : ∀ w < 16, isDigit (Nat.digitChar w) = true := by
  decide

theorem isVersion_digitChar : ∀ w < 16,
    isVersion (Nat.digitChar w) = decide (1 ≤ w ∧ w ≤ 5) := by
  decide

theorem isVariant_digitChar : ∀ w < 16, isVariant (Nat.digitChar w) = decide (w / 4 = 2) := by
  decide

theorem exists_digitChar_of_le : ∀ d : Char, d.toNat ≤ 0x66 → isDigit d = true →
    ∃ w < 16, Nat.digitChar w = d :=
  Text.forall_of_forall_ofNat (by decide)

theorem exists_digitChar {d : Char} (h : isDigit d = true) : ∃ w < 16, Nat.digitChar w = d := by
  have hcode := isDigit_iff.mp h
  exact exists_digitChar_of_le d (by omega) h

/-- Any digits are those of a number. -/
theorem exists_hexPlaces {ds : List Char} (h : ∀ d ∈ ds, isDigit d = true) :
    ∃ n < Nat.pow 16 ds.length, Text.hexPlaces ds.length n = ds := by
  induction ds with
  | nil => exact ⟨0, Nat.one_pos, rfl⟩
  | cons d ds ih =>
      rcases List.forall_mem_cons.mp h with ⟨hd, hds⟩
      rcases exists_digitChar hd with ⟨w, hw, rfl⟩
      rcases ih hds with ⟨n, hn, hplaces⟩
      have hpos : 0 < Nat.pow 16 ds.length := Nat.pow_pos (by decide)
      -- The new digit stands above all that the number of the others takes up.
      have hplace : (n + Nat.pow 16 ds.length * w) / Nat.pow 16 ds.length = w := by
        rw [Nat.add_mul_div_left _ _ hpos, Nat.div_eq_of_lt hn, Nat.zero_add]
      refine ⟨n + Nat.pow 16 ds.length * w, ?_, ?_⟩
      · have hpow : Nat.pow 16 (Nat.digitChar w :: ds).length = 16 * Nat.pow 16 ds.length :=
          Nat.mul_comm _ _
        rw [hpow, ← Nat.div_lt_iff_lt_mul hpos, hplace]
        exact hw
      · rw [List.length_cons, Text.hexPlaces, hplace, Nat.mod_eq_of_lt hw, ← Text.hexPlaces_mod,
          Nat.add_mul_mod_self_left, Text.hexPlaces_mod, hplaces]

end Digits

section Case

/-- A character, made small if it is a capital letter of a hexadecimal digit. -/
def lowered (c : Char) : Char :=
  if 'A' ≤ c ∧ c ≤ 'F' then c.toLower else c

/-- A text with the capital letters of hexadecimal digits made small. -/
def loweredText (s : String) : String :=
  String.ofList (s.toList.map lowered)

/-- A text with capital letters in some of its places. -/
def raisedText (isRaised : Nat → Bool) (s : String) : String :=
  String.ofList (s.toList.mapIdx fun i c => if isRaised i then c.toUpper else c)

/-- Whether a character may stand in a small identifier. -/
def isPart (c : Char) : Bool :=
  c = '-' || isDigit c

theorem isPart_iff {c : Char} : isPart c = true ↔
    c.toNat = 0x2d ∨ (0x30 ≤ c.toNat ∧ c.toNat ≤ 0x39) ∨ (0x61 ≤ c.toNat ∧ c.toNat ≤ 0x66) := by
  have hhyphen : c = '-' ↔ c.toNat = 0x2d := Char.toNat_inj.symm
  simp only [isPart, Bool.or_eq_true, isDigit_iff, decide_eq_true_eq, hhyphen]

theorem lowered_of_capital : ∀ c : Char, c.toNat ≤ 0x46 → 0x41 ≤ c.toNat →
    (lowered c).toNat = c.toNat + 32 :=
  Text.forall_of_forall_ofNat (by decide)

theorem lowered_of_not_capital {c : Char} (h : ¬ (0x41 ≤ c.toNat ∧ c.toNat ≤ 0x46)) :
    lowered c = c :=
  if_neg h

/-- Where case does not count, a character is taken for what it is with `A` to `F` made small, or
    neither of the two may stand in a small identifier. -/
theorem caseless_cases (c : Char) : Text.caseless c = lowered c ∨
    isPart (Text.caseless c) = false ∧ isPart (lowered c) = false := by
  simp only [Bool.eq_false_iff, ne_eq, isPart_iff]
  by_cases hplain : 0x41 ≤ c.toNat ∧ c.toNat ≤ 0x5a
  · have hcaseless := Text.caseless_of_capital c hplain.2 hplain.1
    by_cases hdigit : c.toNat ≤ 0x46
    · have hlowered := lowered_of_capital c hdigit hplain.1
      exact Or.inl (Char.toNat_inj.mp (hcaseless.trans hlowered.symm))
    · -- The letters from `G` on are no digits, capital or small.
      rw [lowered_of_not_capital fun h => hdigit h.2]
      omega
  · rw [lowered_of_not_capital (by omega)]
    rcases Text.caseless_of_not_capital hplain with hsame | hbehind
    · exact Or.inl hsame
    · omega

theorem class_caseless {p : Char → Bool} (h : ∀ d, p d = true → isPart d = true) (c : Char) :
    p (Text.caseless c) = p (lowered c) := by
  rcases caseless_cases c with hsame | ⟨hcaseless, hlowered⟩
  · rw [hsame]
  · have hnot : ∀ {d}, isPart d = false → p d = false := fun {d} hd =>
      Bool.eq_false_iff.mpr fun hp => Bool.false_ne_true (hd.symm.trans (h d hp))
    rw [hnot hcaseless, hnot hlowered]

/-- To hold a text against classes of characters that may stand in a small identifier, it is enough
    to make `A` to `F` small. -/
theorem fits_iff {ps : List (Char → Bool)} {cs : List Char}
    (h : ∀ p ∈ ps, ∀ d, p d = true → isPart d = true) :
    fits ps cs = true ↔ List.Forall₂ (fun p d => p d = true) ps (cs.map lowered) := by
  induction ps generalizing cs with
  | nil =>
      rw [List.forall₂_nil_left_iff, List.map_eq_nil_iff]
      cases cs <;> simp only [fits, reduceCtorEq, Bool.false_eq_true]
  | cons p ps ih =>
      rcases List.forall_mem_cons.mp h with ⟨hp, hps⟩
      cases cs with
      | nil => exact ⟨fun hfits => absurd hfits Bool.false_ne_true, fun hall => nomatch hall⟩
      | cons c cs =>
          rw [fits, Bool.and_eq_true, ih hps, List.map_cons, List.forall₂_cons, class_caseless hp]

theorem lowered_part_of_le : ∀ d : Char, d.toNat ≤ 0x66 → isPart d = true →
    lowered d = d ∧ lowered d.toUpper = d :=
  Text.forall_of_forall_ofNat (by decide)

theorem lowered_part {d : Char} (h : isPart d = true) : lowered d = d ∧ lowered d.toUpper = d := by
  have hcode := isPart_iff.mp h
  exact lowered_part_of_le d (by omega) h

/-- Whatever letters of a small identifier are raised, they can be made small again. -/
theorem loweredText_raisedText {s : String} (h : ∀ d ∈ s.toList, isPart d = true)
    (isRaised : Nat → Bool) : loweredText (raisedText isRaised s) = s := by
  have hback : (s.toList.mapIdx fun i c => if isRaised i then c.toUpper else c).map lowered =
      s.toList := by
    refine List.ext_getElem (by rw [List.length_map, List.length_mapIdx]) fun i hi hs => ?_
    have hpart := lowered_part (h _ (List.getElem_mem hs))
    rw [List.getElem_map, List.getElem_mapIdx]
    split
    · exact hpart.2
    · exact hpart.1
  rw [loweredText, raisedText, String.toList_ofList, hback, String.ofList_toList]

end Case

section Separated

variable {α β : Type} {R : α → β → Prop} {s : α} {t : β} {xs ys : List α}

/-- Members in groups of the given sizes, and then the rest, with a separator behind each group. -/
def separated (separator : α) : List Nat → List α → List α
  | [], members => members
  | size :: sizes, members =>
    members.take size ++ separator :: separated separator sizes (members.drop size)

theorem forall₂_append_left_iff {zs : List β} :
    List.Forall₂ R (xs ++ ys) zs ↔
      ∃ us vs, zs = us ++ vs ∧ List.Forall₂ R xs us ∧ List.Forall₂ R ys vs := by
  induction xs generalizing zs with
  | nil =>
      simp only [List.nil_append, List.forall₂_nil_left_iff]
      constructor
      · intro hzs
        exact ⟨[], zs, rfl, rfl, hzs⟩
      · rintro ⟨_, vs, rfl, rfl, hvs⟩
        exact hvs
  | cons x xs ih =>
      simp only [List.cons_append, List.forall₂_cons_left_iff, ih]
      constructor
      · rintro ⟨u, _, hu, ⟨us, vs, rfl, hus, hvs⟩, rfl⟩
        exact ⟨u :: us, vs, rfl, ⟨u, us, hu, hus, rfl⟩, hvs⟩
      · rintro ⟨_, vs, rfl, ⟨u, us, hu, hus, rfl⟩, hvs⟩
        exact ⟨u, us ++ vs, hu, ⟨us, vs, rfl, hus, hvs⟩, rfl⟩

/-- Separators that go with each other may be taken out. -/
theorem forall₂_separated_iff (hseparator : ∀ y, R s y ↔ y = t) (sizes : List Nat) {zs : List β}
    (hsizes : sizes.foldr (· + ·) 0 ≤ xs.length) : List.Forall₂ R (separated s sizes xs) zs ↔
      ∃ members, zs = separated t sizes members ∧ List.Forall₂ R xs members := by
  induction sizes generalizing xs zs with
  | nil => simp only [separated, exists_eq_left']
  | cons size sizes ih =>
      rw [List.foldr_cons] at hsizes
      have hrest : sizes.foldr (· + ·) 0 ≤ (xs.drop size).length := by
        rw [List.length_drop]
        omega
      simp only [separated, forall₂_append_left_iff, List.forall₂_cons_left_iff, hseparator,
        ih hrest]
      constructor
      · rintro ⟨us, _, rfl, hus, _, _, rfl, ⟨vs, rfl, hvs⟩, rfl⟩
        have hlength : us.length = size := by
          rw [← hus.length_eq, List.length_take]
          omega
        refine ⟨us ++ vs, ?_, ?_⟩
        · rw [List.take_left' hlength, List.drop_left' hlength]
        · rw [← List.take_append_drop size xs]
          exact List.rel_append hus hvs
      · rintro ⟨members, rfl, hmembers⟩
        exact ⟨_, _, rfl, List.forall₂_take size hmembers, t, _, rfl,
          ⟨_, rfl, List.forall₂_drop size hmembers⟩, rfl⟩

theorem separated_inj (s : α) (sizes : List Nat) (hlength : xs.length = ys.length)
    (h : separated s sizes xs = separated s sizes ys) : xs = ys := by
  induction sizes generalizing xs ys with
  | nil => exact h
  | cons size sizes ih =>
      rcases List.append_inj h (by rw [List.length_take, List.length_take, hlength]) with
        ⟨hfront, hrest⟩
      have hback := ih (by rw [List.length_drop, List.length_drop, hlength]) (List.cons.inj hrest).2
      rw [← List.take_append_drop size xs, hfront, hback, List.take_append_drop]

end Separated

section Form

/-- The sizes of the groups of digits, of the last one apart. -/
def groupSizes : List Nat :=
  [8, 4, 4, 4]

/-- The classes of the digits. -/
def digitClasses : List (Char → Bool) :=
  List.replicate 12 isDigit ++ isVersion :: (List.replicate 3 isDigit ++
    isVariant :: List.replicate 15 isDigit)

/-- A number that an identifier stands for: 128 bits, with a version from one to five in four of
    them and a fixed variant in two. -/
structure IsNumber (n : Nat) : Prop where
  /-- There are 128 bits. -/
  fits : n < Nat.pow 2 128
  /-- The bits from 76 to 79 are the version. -/
  version : 1 ≤ n / Nat.pow 2 76 % 16 ∧ n / Nat.pow 2 76 % 16 ≤ 5
  /-- The bits 63 and 62 are one and zero. -/
  variant : n.testBit 63 = true ∧ n.testBit 62 = false

/-- A number, written as an identifier: all hexadecimal digits, in five groups with hyphens
    between them. -/
def written (n : Nat) : String :=
  String.ofList (separated '-' groupSizes (Text.hexDigits 32 n))

theorem form_eq_separated :
    form = separated (fun c => decide (c = '-')) groupSizes digitClasses :=
  rfl

theorem class_cases : ∀ p ∈ form,
    p = (fun c => decide (c = '-')) ∨ p ∈ [isDigit, isVersion, isVariant] := by
  simp only [form, List.mem_append, List.mem_cons, List.mem_replicate, List.not_mem_nil]
  tauto

theorem digitClass_cases : ∀ p ∈ digitClasses, p ∈ [isDigit, isVersion, isVariant] := by
  simp only [digitClasses, List.mem_append, List.mem_cons, List.mem_replicate, List.not_mem_nil]
  tauto

theorem isDigit_of_class :
    ∀ p ∈ [isDigit, isVersion, isVariant], ∀ d, p d = true → isDigit d = true := by
  simp only [List.forall_mem_cons]
  refine ⟨fun _ h => h, fun d h => ?_, fun d h => ?_, fun _ h => absurd h List.not_mem_nil⟩
  · simp only [isVersion, Bool.and_eq_true, decide_eq_true_eq] at h
    have hfirst : 0x31 ≤ d.toNat := h.1
    have hlast : d.toNat ≤ 0x35 := h.2
    rw [isDigit_iff]
    omega
  · simp only [isVariant, Bool.or_eq_true, decide_eq_true_eq] at h
    rcases h with ((rfl | rfl) | rfl) | rfl <;> rfl

theorem isPart_of_mem_form : ∀ p ∈ form, ∀ d, p d = true → isPart d = true := by
  intro p hp d hd
  rw [isPart, Bool.or_eq_true]
  rcases class_cases p hp with rfl | hclass
  · exact Or.inl hd
  · exact Or.inr (isDigit_of_class p hclass d hd)

/-- What is in classes has what the classes have in common. -/
theorem forall_of_forall₂ {ps : List (Char → Bool)} {ds : List Char} {P : Char → Prop}
    (h : List.Forall₂ (fun p d => p d = true) ps ds)
    (hcommon : ∀ p ∈ ps, ∀ d, p d = true → P d) : ∀ d ∈ ds, P d := by
  induction h with
  | nil => exact fun _ hmem => absurd hmem List.not_mem_nil
  | cons hd _ ih =>
      rcases List.forall_mem_cons.mp hcommon with ⟨hhere, hrest⟩
      exact List.forall_mem_cons.mpr ⟨hhere _ hd, ih hrest⟩

/-- The digits of a number are in their classes if the two of them are that are not free. -/
theorem forall₂_digitClasses_iff (n : Nat) :
    List.Forall₂ (fun p d => p d = true) digitClasses (Text.hexPlaces 32 n) ↔
      isVersion (Nat.digitChar (n / Nat.pow 16 19 % 16)) = true ∧
        isVariant (Nat.digitChar (n / Nat.pow 16 15 % 16)) = true := by
  have hdigit : ∀ m, isDigit (Nat.digitChar (m % 16)) = true := fun m =>
    isDigit_digitChar _ (Nat.mod_lt m (by decide))
  simp only [digitClasses, List.replicate, List.cons_append, List.nil_append, Text.hexPlaces,
    List.forall₂_cons, List.Forall₂.nil, hdigit, true_and, and_true]

theorem isNumber_iff {n : Nat} : IsNumber n ↔ n < Nat.pow 16 32 ∧
    isVersion (Nat.digitChar (n / Nat.pow 16 19 % 16)) = true ∧
      isVariant (Nat.digitChar (n / Nat.pow 16 15 % 16)) = true := by
  have hvariant : (n.testBit 63 = true ∧ n.testBit 62 = false) ↔
      n / Nat.pow 16 15 % 16 / 4 = 2 := by
    have hpow : Nat.pow 16 15 = 2 ^ 60 := rfl
    simp only [Nat.testBit_eq_decide_div_mod_eq, decide_eq_true_eq, decide_eq_false_iff_not, hpow]
    omega
  rw [isVersion_digitChar _ (Nat.mod_lt _ (by decide)),
    isVariant_digitChar _ (Nat.mod_lt _ (by decide)), decide_eq_true_eq, decide_eq_true_eq,
    ← hvariant]
  exact ⟨fun h => ⟨h.fits, h.version, h.variant⟩, fun h => ⟨h.1, h.2.1, h.2.2⟩⟩

/-- What has the form of an identifier, all letters small, is a number. -/
theorem forall₂_form_iff {cs : List Char} : List.Forall₂ (fun p d => p d = true) form cs ↔
    ∃ n, IsNumber n ∧ cs = separated '-' groupSizes (Text.hexDigits 32 n) := by
  have hhyphen : ∀ c, decide (c = '-') = true ↔ c = '-' := fun _ => decide_eq_true_iff
  have hsizes : groupSizes.foldr (· + ·) 0 ≤ digitClasses.length := by decide
  rw [form_eq_separated, forall₂_separated_iff hhyphen groupSizes hsizes]
  constructor
  · rintro ⟨ds, rfl, hds⟩
    have hlength : ds.length = 32 := hds.length_eq.symm
    have hdigits : ∀ d ∈ ds, isDigit d = true := forall_of_forall₂ hds fun p hp =>
      isDigit_of_class p (digitClass_cases p hp)
    -- Any 32 digits are those of a number. What their classes still say is its version and variant.
    rcases exists_hexPlaces hdigits with ⟨n, hn, hplaces⟩
    rw [hlength] at hn hplaces
    rw [← hplaces] at hds ⊢
    refine ⟨n, isNumber_iff.mpr ⟨hn, (forall₂_digitClasses_iff n).mp hds⟩, ?_⟩
    rw [Text.hexDigits_eq_hexPlaces (by decide) hn]
  · rintro ⟨n, hnumber, rfl⟩
    rcases isNumber_iff.mp hnumber with ⟨hn, hclasses⟩
    rw [Text.hexDigits_eq_hexPlaces (by decide) hn]
    exact ⟨_, rfl, (forall₂_digitClasses_iff n).mpr hclasses⟩

/-- The texts that have the form of an identifier. -/
theorem isUuid_iff {s : String} :
    isUuid s = true ↔ ∃ n, IsNumber n ∧ loweredText s = written n := by
  simp only [isUuid, fits_iff isPart_of_mem_form, forall₂_form_iff, loweredText, written,
    String.ofList_inj]

theorem written_inj {m n : Nat} (hm : m < Nat.pow 2 128) (hn : n < Nat.pow 2 128)
    (h : written m = written n) : m = n := by
  have hpow : Nat.pow 2 128 = Nat.pow 16 32 := rfl
  rw [hpow] at hm hn
  rw [written, written, Text.hexDigits_eq_hexPlaces (by decide) hm,
    Text.hexDigits_eq_hexPlaces (by decide) hn, String.ofList_inj] at h
  refine Text.hexPlaces_inj hm hn (separated_inj '-' groupSizes ?_ h)
  rw [Text.length_hexPlaces, Text.length_hexPlaces]

theorem isPart_of_mem_written {n : Nat} (h : IsNumber n) :
    ∀ d ∈ (written n).toList, isPart d = true := by
  rw [written, String.toList_ofList]
  exact forall_of_forall₂ (forall₂_form_iff.mpr ⟨n, h, rfl⟩) isPart_of_mem_form

theorem isBlank_ofNat : ∀ n ≤ 0x66, 0x2d ≤ n → Text.blankRanges.has n = false := by
  decide

/-- A character of an identifier is a plain one, and not a blank one. -/
theorem plain_of_lowered {c : Char} (h : isPart (lowered c) = true) :
    (c = '-' ∨ isHexDigit c = true) ∧ c.toNat < 0x80 ∧ Text.isBlank c = false := by
  -- Making small touches `A` to `F` only, so they are all that is added to the small parts.
  have hcode : (c.toNat = 0x2d ∨ (0x30 ≤ c.toNat ∧ c.toNat ≤ 0x39) ∨
      (0x61 ≤ c.toNat ∧ c.toNat ≤ 0x66)) ∨ (0x41 ≤ c.toNat ∧ c.toNat ≤ 0x46) := by
    by_cases hcapital : 0x41 ≤ c.toNat ∧ c.toNat ≤ 0x46
    · exact Or.inr hcapital
    · rw [lowered_of_not_capital hcapital] at h
      exact Or.inl (isPart_iff.mp h)
  refine ⟨?_, by omega, isBlank_ofNat c.toNat (by omega) (by omega)⟩
  have hhyphen : c = '-' ↔ c.toNat = 0x2d := Char.toNat_inj.symm
  have hhex : isHexDigit c = true ↔ ((0x30 ≤ c.toNat ∧ c.toNat ≤ 0x39) ∨
      (0x61 ≤ c.toNat ∧ c.toNat ≤ 0x66)) ∨ (0x41 ≤ c.toNat ∧ c.toNat ≤ 0x46) := by
    simp only [isHexDigit, Bool.or_eq_true, Bool.and_eq_true, decide_eq_true_eq]
    rfl
  rw [hhyphen, hhex]
  omega

theorem uuid_holds_text {s : String} :
    Primitive.uuid.holds (.text s) = true ↔ ∃ n, IsNumber n ∧ loweredText s = written n :=
  isUuid_iff

/-- A value is an identifier exactly if it is a text that is, with `A` to `F` made small, a number
    with a version and the variant, written in groups of hexadecimal digits; and then there is only
    one such number. Every such number is written as an identifier, whichever of its letters are
    capital ones. Nothing stands in an identifier but hyphens and plain hexadecimal digits, so no
    letter of another script, whatever its small form, and nothing blank. -/
theorem uuid_holds_iff :
    (∀ v, Primitive.uuid.holds v = true ↔
      ∃ s, v = .text s ∧ ∃! n, IsNumber n ∧ loweredText s = written n) ∧
    (∀ n, IsNumber n →
      (∀ s, loweredText s = written n → Primitive.uuid.holds (.text s) = true) ∧
      ∀ isRaised, Primitive.uuid.holds (.text (raisedText isRaised (written n))) = true) ∧
    ∀ s, Primitive.uuid.holds (.text s) = true → ∀ c ∈ s.toList,
      (c = '-' ∨ isHexDigit c = true) ∧ c.toNat < 0x80 ∧ Text.isBlank c = false := by
  refine ⟨fun v => ⟨fun h => ?_, ?_⟩, fun n hn => ⟨fun s hs => ?_, fun isRaised => ?_⟩,
    fun s hs c hc => ?_⟩
  · cases v with
    | text s =>
        rcases uuid_holds_text.mp h with ⟨n, hn, hs⟩
        refine ⟨s, rfl, n, ⟨hn, hs⟩, fun m hm => ?_⟩
        exact written_inj hm.1.fits hn.fits (hm.2.symm.trans hs)
    | _ => exact absurd h Bool.false_ne_true
  · rintro ⟨s, rfl, hnumber⟩
    exact uuid_holds_text.mpr hnumber.exists
  · exact uuid_holds_text.mpr ⟨n, hn, hs⟩
  · exact uuid_holds_text.mpr ⟨n, hn, loweredText_raisedText (isPart_of_mem_written hn) isRaised⟩
  · have hform : List.Forall₂ (fun p d => p d = true) form (s.toList.map lowered) :=
      (fits_iff isPart_of_mem_form).mp hs
    have hparts := forall_of_forall₂ hform isPart_of_mem_form
    exact plain_of_lowered (hparts _ (List.mem_map_of_mem hc))

/-- A number of the first version, written with letters of both cases. -/
theorem uuid_holds_iff_mixed :
    IsNumber 0x6ba7b8109dad11d180b400c04fd430c8 ∧
      written 0x6ba7b8109dad11d180b400c04fd430c8 = "6ba7b810-9dad-11d1-80b4-00c04fd430c8" ∧
      Primitive.uuid.holds (.text "6BA7b810-9dad-11D1-80b4-00C04fD430c8") = true ∧
      ∃ s, Value.text "6BA7b810-9dad-11D1-80b4-00C04fD430c8" = .text s ∧ ∃! n, IsNumber n ∧
        loweredText s = written n := by
  have hnumber : IsNumber 0x6ba7b8109dad11d180b400c04fd430c8 :=
    ⟨by decide, by decide, by decide⟩
  have hholds := (uuid_holds_iff.2.1 _ hnumber).1 "6BA7b810-9dad-11D1-80b4-00C04fD430c8"
    (by decide +kernel)
  exact ⟨hnumber, by decide +kernel, hholds, (uuid_holds_iff.1 _).mp hholds⟩

end Form

end Uuid

end Attest
