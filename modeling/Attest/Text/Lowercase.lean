import Attest.Text.CaseIgnorable

/-!
# Lower Case

Text with every capital letter replaced by its small form.

The small form of a letter does not depend on the text around it, with one
exception: a capital sigma becomes the final form of the small sigma if a letter
stands before it and none behind it. One letter, the capital I with a dot, has a
small form of two characters.

Where case does not count, a character is taken for the first one of its small form. The small
forms of a few letters of other scripts are plain letters, such as that of the sign for kelvin, but
none of them comes before `g` in the alphabet.

## Main definitions

* `smallForm`: The small form of one character.
* `lowercase`: The small form of a text.
* `caseless`: The character that a character is taken for where case does not count.

## Theorems

* `forall_of_forall_ofNat`: Characters may be checked by their code points.
* `caseless_of_capital`: Plain capital letters are taken for plain small ones.
* `caseless_of_not_capital`: Other characters are not taken for a plain letter up to `f`.
-/

namespace Attest

namespace Text

/-- Runs of capital letters: the first code point, how many letters follow, the
    step from one to the next, and how far off the small form is. -/
def capitalRuns : List (Nat × Nat × Nat × Int) :=
  [(0x0041, 26, 1, 32), (0x00c0, 23, 1, 32), (0x00d8, 7, 1, 32), (0x0100, 24, 2, 1),
    (0x0132, 3, 2, 1), (0x0139, 8, 2, 1), (0x014a, 23, 2, 1), (0x0178, 1, 1, -121),
    (0x0179, 3, 2, 1), (0x0181, 1, 1, 210), (0x0182, 2, 2, 1), (0x0186, 1, 1, 206),
    (0x0187, 1, 1, 1), (0x0189, 2, 1, 205), (0x018b, 1, 1, 1), (0x018e, 1, 1, 79),
    (0x018f, 1, 1, 202), (0x0190, 1, 1, 203), (0x0191, 1, 1, 1), (0x0193, 1, 1, 205),
    (0x0194, 1, 1, 207), (0x0196, 1, 1, 211), (0x0197, 1, 1, 209), (0x0198, 1, 1, 1),
    (0x019c, 1, 1, 211), (0x019d, 1, 1, 213), (0x019f, 1, 1, 214), (0x01a0, 3, 2, 1),
    (0x01a6, 1, 1, 218), (0x01a7, 1, 1, 1), (0x01a9, 1, 1, 218), (0x01ac, 1, 1, 1),
    (0x01ae, 1, 1, 218), (0x01af, 1, 1, 1), (0x01b1, 2, 1, 217), (0x01b3, 2, 2, 1),
    (0x01b7, 1, 1, 219), (0x01b8, 1, 1, 1), (0x01bc, 1, 1, 1), (0x01c4, 1, 1, 2),
    (0x01c5, 1, 1, 1), (0x01c7, 1, 1, 2), (0x01c8, 1, 1, 1), (0x01ca, 1, 1, 2),
    (0x01cb, 9, 2, 1), (0x01de, 9, 2, 1), (0x01f1, 1, 1, 2), (0x01f2, 2, 2, 1),
    (0x01f6, 1, 1, -97), (0x01f7, 1, 1, -56), (0x01f8, 20, 2, 1), (0x0220, 1, 1, -130),
    (0x0222, 9, 2, 1), (0x023a, 1, 1, 10795), (0x023b, 1, 1, 1), (0x023d, 1, 1, -163),
    (0x023e, 1, 1, 10792), (0x0241, 1, 1, 1), (0x0243, 1, 1, -195), (0x0244, 1, 1, 69),
    (0x0245, 1, 1, 71), (0x0246, 5, 2, 1), (0x0370, 2, 2, 1), (0x0376, 1, 1, 1),
    (0x037f, 1, 1, 116), (0x0386, 1, 1, 38), (0x0388, 3, 1, 37), (0x038c, 1, 1, 64),
    (0x038e, 2, 1, 63), (0x0391, 17, 1, 32), (0x03a3, 9, 1, 32), (0x03cf, 1, 1, 8),
    (0x03d8, 12, 2, 1), (0x03f4, 1, 1, -60), (0x03f7, 1, 1, 1), (0x03f9, 1, 1, -7),
    (0x03fa, 1, 1, 1), (0x03fd, 3, 1, -130), (0x0400, 16, 1, 80), (0x0410, 32, 1, 32),
    (0x0460, 17, 2, 1), (0x048a, 27, 2, 1), (0x04c0, 1, 1, 15), (0x04c1, 7, 2, 1),
    (0x04d0, 48, 2, 1), (0x0531, 38, 1, 48), (0x10a0, 38, 1, 7264), (0x10c7, 1, 1, 7264),
    (0x10cd, 1, 1, 7264), (0x13a0, 80, 1, 38864), (0x13f0, 6, 1, 8), (0x1c90, 43, 1, -3008),
    (0x1cbd, 3, 1, -3008), (0x1e00, 75, 2, 1), (0x1e9e, 1, 1, -7615), (0x1ea0, 48, 2, 1),
    (0x1f08, 8, 1, -8), (0x1f18, 6, 1, -8), (0x1f28, 8, 1, -8), (0x1f38, 8, 1, -8),
    (0x1f48, 6, 1, -8), (0x1f59, 4, 2, -8), (0x1f68, 8, 1, -8), (0x1f88, 8, 1, -8),
    (0x1f98, 8, 1, -8), (0x1fa8, 8, 1, -8), (0x1fb8, 2, 1, -8), (0x1fba, 2, 1, -74),
    (0x1fbc, 1, 1, -9), (0x1fc8, 4, 1, -86), (0x1fcc, 1, 1, -9), (0x1fd8, 2, 1, -8),
    (0x1fda, 2, 1, -100), (0x1fe8, 2, 1, -8), (0x1fea, 2, 1, -112), (0x1fec, 1, 1, -7),
    (0x1ff8, 2, 1, -128), (0x1ffa, 2, 1, -126), (0x1ffc, 1, 1, -9), (0x2126, 1, 1, -7517),
    (0x212a, 1, 1, -8383), (0x212b, 1, 1, -8262), (0x2132, 1, 1, 28), (0x2160, 16, 1, 16),
    (0x2183, 1, 1, 1), (0x24b6, 26, 1, 26), (0x2c00, 48, 1, 48), (0x2c60, 1, 1, 1),
    (0x2c62, 1, 1, -10743), (0x2c63, 1, 1, -3814), (0x2c64, 1, 1, -10727), (0x2c67, 3, 2, 1),
    (0x2c6d, 1, 1, -10780), (0x2c6e, 1, 1, -10749), (0x2c6f, 1, 1, -10783),
    (0x2c70, 1, 1, -10782), (0x2c72, 1, 1, 1), (0x2c75, 1, 1, 1), (0x2c7e, 2, 1, -10815),
    (0x2c80, 50, 2, 1), (0x2ceb, 2, 2, 1), (0x2cf2, 1, 1, 1), (0xa640, 23, 2, 1),
    (0xa680, 14, 2, 1), (0xa722, 7, 2, 1), (0xa732, 31, 2, 1), (0xa779, 2, 2, 1),
    (0xa77d, 1, 1, -35332), (0xa77e, 5, 2, 1), (0xa78b, 1, 1, 1), (0xa78d, 1, 1, -42280),
    (0xa790, 2, 2, 1), (0xa796, 10, 2, 1), (0xa7aa, 1, 1, -42308), (0xa7ab, 1, 1, -42319),
    (0xa7ac, 1, 1, -42315), (0xa7ad, 1, 1, -42305), (0xa7ae, 1, 1, -42308),
    (0xa7b0, 1, 1, -42258), (0xa7b1, 1, 1, -42282), (0xa7b2, 1, 1, -42261), (0xa7b3, 1, 1, 928),
    (0xa7b4, 8, 2, 1), (0xa7c4, 1, 1, -48), (0xa7c5, 1, 1, -42307), (0xa7c6, 1, 1, -35384),
    (0xa7c7, 2, 2, 1), (0xa7d0, 1, 1, 1), (0xa7d6, 2, 2, 1), (0xa7f5, 1, 1, 1),
    (0xff21, 26, 1, 32), (0x10400, 40, 1, 40), (0x104b0, 36, 1, 40), (0x10570, 11, 1, 39),
    (0x1057c, 15, 1, 39), (0x1058c, 7, 1, 39), (0x10594, 2, 1, 39), (0x10c80, 51, 1, 64),
    (0x118a0, 32, 1, 32), (0x16e40, 32, 1, 32), (0x1e900, 34, 1, 34)]

/-- How far off the small form of a code point is, if it is a capital letter. -/
def smallOffset? (n : Nat) : Option Int :=
  capitalRuns.findSome? fun (first, count, step, offset) =>
    if first ≤ n ∧ (n - first) % step = 0 ∧ (n - first) / step < count then some offset else none

/-- The small form of one character. -/
def smallForm (c : Char) : List Char :=
  if c = '\u0130' then ['i', '\u0307']
  else match smallOffset? c.toNat with
    | some offset => [Char.ofNat ((c.toNat : Int) + offset).toNat]
    | none => [c]

/-- Whether the next letter, after what is looked through, is a cased one. -/
def meetsCased (cs : List Char) : Bool :=
  match cs.dropWhile isCaseIgnorable with
  | c :: _ => isCased c
  | [] => false

/-- The small form of the characters `cs`, where `before` are the ones in front
    of them, the nearest first. -/
def lowercaseFrom (before : List Char) : List Char → List Char
  | [] => []
  | c :: cs =>
    let small :=
      if c = '\u03a3' then
        if meetsCased before && !meetsCased cs then ['\u03c2'] else ['\u03c3']
      else smallForm c
    small ++ lowercaseFrom (c :: before) cs

/-- The small form of a text. -/
def lowercase (s : String) : String :=
  String.ofList (lowercaseFrom [] s.toList)

/-- The character that a character is taken for where case does not count: the first of
    its small form. -/
def caseless (c : Char) : Char :=
  (smallForm c).headD c

/-- The plain capital letters are one run. All others, and their small forms, lie behind
    the small `f`. -/
theorem capitalRuns_cases : ∀ run ∈ capitalRuns,
    run = (0x41, 26, 1, 32) ∨ 0x66 < run.1 ∧ 0x66 < (run.1 : Int) + run.2.2.2 := by
  decide +kernel

theorem smallOffset?_cases {n : Nat} {offset : Int} (h : smallOffset? n = some offset) :
    (0x41 ≤ n ∧ n ≤ 0x5a ∧ offset = 32) ∨ (0x66 < n ∧ 0x66 < (n : Int) + offset) := by
  rcases List.exists_of_findSome?_eq_some h with ⟨⟨first, count, step, shift⟩, hmem, hrun⟩
  dsimp only at hrun
  split at hrun
  · next hin =>
      have hshift := Option.some.inj hrun
      rcases capitalRuns_cases _ hmem with hplain | hbehind
      · simp only [Prod.mk.injEq] at hplain
        rcases hplain with ⟨rfl, rfl, rfl, rfl⟩
        omega
      · dsimp only at hbehind
        omega
  · exact absurd hrun (by simp only [reduceCtorEq, not_false_eq_true])

theorem toNat_ofNat_cases (n : Nat) : (Char.ofNat n).toNat = n ∨ (Char.ofNat n).toNat = 0 := by
  by_cases h : n.isValidChar
  · exact Or.inl (congrArg Char.toNat (dif_pos h))
  · exact Or.inr (congrArg Char.toNat (dif_neg h))

/-- What is checked for all code points up to one of them holds for the characters up to there. -/
theorem forall_of_forall_ofNat {P : Char → Prop} {last : Nat}
    (h : ∀ n ≤ last, P (Char.ofNat n)) : ∀ c : Char, c.toNat ≤ last → P c := by
  intro c hlast
  have hc := h c.toNat hlast
  rwa [Char.ofNat_toNat] at hc

/-- Plain capital letters are taken for plain small ones. -/
theorem caseless_of_capital : ∀ c : Char, c.toNat ≤ 0x5a → 0x41 ≤ c.toNat →
    (caseless c).toNat = c.toNat + 32 :=
  forall_of_forall_ofNat (by decide +kernel)

/-- Any other character is taken for itself, or else it lies behind the small `f` and is not
    taken for anything up to there. -/
theorem caseless_of_not_capital {c : Char} (h : ¬ (0x41 ≤ c.toNat ∧ c.toNat ≤ 0x5a)) :
    caseless c = c ∨
      (0x66 < c.toNat ∧ (0x66 < (caseless c).toNat ∨ (caseless c).toNat = 0)) := by
  unfold caseless smallForm
  by_cases hdotted : c = '\u0130'
  · subst hdotted
    exact Or.inr (by decide)
  rw [if_neg hdotted]
  rcases hoffset : smallOffset? c.toNat with _ | offset
  · exact Or.inl rfl
  · rcases smallOffset?_cases hoffset with hplain | hbehind
    · exact absurd ⟨hplain.1, hplain.2.1⟩ h
    · refine Or.inr ⟨hbehind.1, ?_⟩
      simp only [List.headD_cons]
      -- A sum that is no code point would give the null character.
      rcases toNat_ofNat_cases ((c.toNat : Int) + offset).toNat with hvalid | hinvalid
      · rw [hvalid]
        omega
      · exact Or.inr hinvalid

end Text

end Attest
