import Mathlib.Data.List.Chain
import Attest.Format.Email

/-!
# Plain and International Addresses

The two grammars for email addresses, compared.

One grammar is a pattern, the other one a list of conditions on parts. To compare them the plain
one is taken apart in the same way: a text that it matches is split at its at sign and, behind
it, at the dots, and what the pattern says of each part is read off. On the local part the two
agree as far as ASCII goes.

On the domain they do not. The plain grammar lets hyphens stand in front of a dot, if it is not
the last one, and the international grammar lets none stand at either end of a label. So a plain
address is an international one if and only if no label of its domain ends in a hyphen, which is
`international_iff_of_plain`.

## Main definitions

* `Email.IsPlainLocal`: The local part of a plain address.
* `Email.IsPlainLabel`: A label as the plain grammar knows it.
* `Email.IsTopLabel`: What the plain grammar asks of the last label.
* `Email.ArePlainLabels`: The labels of a plain domain.

## Theorems

* `isLetter_of_isAlpha`, `isWordChar_of_isAlphanum`: ASCII letters and digits are word characters.
* `splitAt_append`, `splitAt_of_not_mem`, `mem_splitAt`: Splitting at a separator.
* `splitAt_eq_splitOn`, `intercalate_splitAt`: The parts are those of the standard library, and
  make the text when they are joined.
* `joined_of_matches`: Members of a class with single separators between them.
* `plainLocal_of_matches`, `local_of_matches`: A local part that matches is a plain one, and an
  international one.
* `plain_of_matches`, `labels_of_matches`: The labels of a plain domain.
* `isInternationalDomain_iff`: When a plain domain is an international one.
* `international_iff_of_plain`: When a plain address is an international one.
* `hyphen_before_dot`: A plain address that is no international one.
-/

namespace Attest

namespace Email

open Pattern

section Characters

theorem isLetter_of_isAlpha {c : Char} (h : c.isAlpha = true) : Text.isLetter c = true := by
  have hupper : (0x0041, 0x005a) ∈ Text.letterRanges := List.mem_cons_self
  have hlower : (0x0061, 0x007a) ∈ Text.letterRanges :=
    List.mem_cons_of_mem _ List.mem_cons_self
  rcases Bool.or_eq_true _ _ ▸ h with h | h
  · have hbounds : 0x0041 ≤ c.toNat ∧ c.toNat ≤ 0x005a := of_decide_eq_true h
    exact Text.inRanges_of_mem hupper hbounds.1 hbounds.2
  · rcases Bool.and_eq_true _ _ ▸ h with ⟨hfirst, hlast⟩
    exact Text.inRanges_of_mem hlower (of_decide_eq_true hfirst) (of_decide_eq_true hlast)

theorem isNumeral_of_isDigit {c : Char} (h : c.isDigit = true) : Text.isNumeral c = true := by
  have hdigits : (0x0030, 0x0039) ∈ Text.numeralRanges := List.mem_cons_self
  rcases Bool.and_eq_true _ _ ▸ h with ⟨hfirst, hlast⟩
  exact Text.inRanges_of_mem hdigits (of_decide_eq_true hfirst) (of_decide_eq_true hlast)

theorem isWordChar_of_isAlphanum {c : Char} (h : c.isAlphanum = true) : isWordChar c = true := by
  unfold isWordChar
  rcases Bool.or_eq_true _ _ ▸ h with h | h
  · rw [isLetter_of_isAlpha h, Bool.true_or, Bool.true_or]
  · rw [isNumeral_of_isDigit h, Bool.or_true]

theorem isAlphanum_of_isAlpha {c : Char} (h : c.isAlpha = true) : c.isAlphanum = true := by
  rw [Char.isAlphanum, h, Bool.true_or]

/-- A letter or digit is none of the characters that are told apart by position. -/
theorem ne_of_isAlphanum {c : Char} (h : c.isAlphanum = true) : c ≠ '.' ∧ c ≠ '-' ∧ c ≠ '@' :=
  ⟨fun hc => absurd (hc ▸ h) (by decide), fun hc => absurd (hc ▸ h) (by decide),
    fun hc => absurd (hc ▸ h) (by decide)⟩

theorem ne_of_isAtom {c : Char} (h : isAtom c = true) : c ≠ '.' ∧ c ≠ '@' :=
  ⟨fun hc => absurd (hc ▸ h) (by decide), fun hc => absurd (hc ▸ h) (by decide)⟩

theorem isAtom_iff {c : Char} : isAtom c = true ↔ c.isAlphanum = true ∨ c ∈ punctuation := by
  rw [isAtom, Bool.or_eq_true, List.contains_iff_mem]

end Characters

section Splitting

theorem splitAt_ne_nil (separator : Char) (cs : List Char) : splitAt separator cs ≠ [] := by
  cases cs with
  | nil => exact List.cons_ne_nil _ _
  | cons c cs =>
      rw [splitAt]
      split
      · split
        · exact List.cons_ne_nil _ _
        · exact List.cons_ne_nil _ _
      · exact List.cons_ne_nil _ _

/-- The parts in front of a separator and behind it are the parts of the whole. -/
theorem splitAt_append (separator : Char) (cs ds : List Char) :
    splitAt separator (cs ++ separator :: ds) = splitAt separator cs ++ splitAt separator ds := by
  induction cs with
  | nil =>
      rcases List.exists_cons_of_ne_nil (splitAt_ne_nil separator ds) with
        ⟨part, parts, hparts⟩
      simp only [List.nil_append, splitAt, hparts, if_true, List.cons_append]
  | cons c cs ih =>
      rcases List.exists_cons_of_ne_nil (splitAt_ne_nil separator cs) with
        ⟨part, parts, hparts⟩
      rw [List.cons_append, splitAt, splitAt, ih, hparts]
      by_cases hc : c = separator
      · simp only [List.cons_append, if_pos hc]
      · simp only [List.cons_append, if_neg hc]

theorem splitAt_of_not_mem {separator : Char} {cs : List Char} (h : separator ∉ cs) :
    splitAt separator cs = [cs] := by
  induction cs with
  | nil => rfl
  | cons c cs ih =>
      rw [List.mem_cons, not_or] at h
      rw [splitAt, ih h.2]
      exact if_neg (Ne.symm h.1)

/-- A character of a text is the separator or stands in one of the parts. -/
theorem mem_splitAt {separator : Char} {cs : List Char} {c : Char} (h : c ∈ cs) :
    c = separator ∨ ∃ part ∈ splitAt separator cs, c ∈ part := by
  induction cs with
  | nil => exact absurd h List.not_mem_nil
  | cons d cs ih =>
      rcases List.exists_cons_of_ne_nil (splitAt_ne_nil separator cs) with
        ⟨part, parts, hparts⟩
      rw [hparts] at ih
      rw [splitAt, hparts]
      by_cases hd : d = separator
      · simp only [if_pos hd]
        rcases List.mem_cons.mp h with rfl | h
        · exact Or.inl hd
        · refine (ih h).imp_right fun hpart => ?_
          rcases hpart with ⟨p, hp, hc⟩
          exact ⟨p, List.mem_cons_of_mem _ hp, hc⟩
      · simp only [if_neg hd]
        rcases List.mem_cons.mp h with rfl | h
        · exact Or.inr ⟨c :: part, List.mem_cons_self, List.mem_cons_self⟩
        · refine (ih h).imp_right fun hpart => ?_
          rcases hpart with ⟨p, hp, hc⟩
          rcases List.mem_cons.mp hp with rfl | hp
          · exact ⟨d :: p, List.mem_cons_self, List.mem_cons_of_mem _ hc⟩
          · exact ⟨p, List.mem_cons_of_mem _ hp, hc⟩

/-- The parts are those of the standard library. -/
theorem splitAt_eq_splitOn (separator : Char) (cs : List Char) :
    splitAt separator cs = cs.splitOn separator := by
  induction cs with
  | nil => rfl
  | cons c cs ih =>
      rcases List.exists_cons_of_ne_nil (splitAt_ne_nil separator cs) with ⟨part, parts, hparts⟩
      rw [splitAt, hparts, List.splitOn, List.splitOnP_cons_eq_if_modifyHead, ← List.splitOn, ← ih,
        hparts]
      simp only [List.modifyHead_cons, beq_iff_eq]

/-- Joined again, the parts are the text. -/
theorem intercalate_splitAt (separator : Char) (cs : List Char) :
    [separator].intercalate (splitAt separator cs) = cs := by
  rw [splitAt_eq_splitOn, List.intercalate_splitOn]

/-- Parts are joined one behind the other. -/
theorem intercalate_concat (separator : Char) {front : List (List Char)} (h : front ≠ [])
    (last : List Char) :
    [separator].intercalate (front ++ [last]) =
      [separator].intercalate front ++ separator :: last := by
  induction front with
  | nil => exact absurd rfl h
  | cons part front ih =>
      rw [List.cons_append, List.intercalate_cons_of_ne_nil (List.concat_ne_nil _ _)]
      by_cases hfront : front = []
      · simp only [hfront, List.nil_append, List.intercalate_singleton, List.append_assoc,
          List.singleton_append]
      · rw [ih hfront, List.intercalate_cons_of_ne_nil hfront, List.append_assoc, List.append_assoc,
          List.append_assoc]

/-- A text ends as the last of its parts does. -/
theorem getLast?_of_splitAt {separator : Char} {cs last : List Char} {front : List (List Char)}
    (h : splitAt separator cs = front ++ [last]) (hlast : last ≠ []) :
    cs.getLast? = last.getLast? := by
  have hjoined := intercalate_splitAt separator cs
  rw [h] at hjoined
  by_cases hfront : front = []
  · rw [← hjoined, hfront, List.nil_append, List.intercalate_singleton]
  · rw [← hjoined, intercalate_concat separator hfront, List.getLast?_append,
      List.getLast?_cons_of_ne_nil hlast]
    rw [List.getLast?_eq_some_getLast hlast, Option.some_or]

theorem halves_append {front back : List Char} (h : '@' ∉ front) :
    halves (front ++ '@' :: back) = (front, back) := by
  have hfront : ∀ c ∈ front, decide (c ≠ '@') = true := fun c hmem =>
    decide_eq_true fun hc => h (hc ▸ hmem)
  unfold halves
  rw [List.takeWhile_append_of_pos hfront, List.dropWhile_append_of_pos hfront]
  simp

end Splitting

section Parts

/-- Members of a class with at most one separator between two of them: behind a member, no
    separator stands at the end or next to another one. -/
theorem joined_of_matches {separator : Char} {isMember : Char → Bool}
    (hseparator : isMember separator = false) {cs : List Char}
    (h : Matches (many (seq (maybe (char separator)) (one isMember))) cs) :
    (∀ c ∈ cs, c = separator ∨ isMember c = true) ∧
      ∀ c, isMember c = true → (c :: cs).getLast? ≠ some separator ∧
        (c :: cs).IsChain fun a b => a ≠ separator ∨ b ≠ separator := by
  have hne : ∀ c, isMember c = true → c ≠ separator := fun c hc hsame =>
    absurd (hsame ▸ hc) (by rw [hseparator]; exact Bool.false_ne_true)
  -- The member in front is arbitrary, so that it can be the last one of the round before.
  refine many_induction ⟨fun c hc => absurd hc List.not_mem_nil, fun c hc => ⟨?_, ?_⟩⟩ ?_ h
  · rw [List.getLast?_singleton, ne_eq, Option.some.injEq]
    exact hne c hc
  · exact List.IsChain.singleton c
  · rintro s rest hs ⟨hchars, hrest⟩
    simp only [seq_matches, maybe_matches, char_matches, one_matches] at hs
    rcases hs with ⟨_, _, rfl, rfl | rfl, d, rfl, hd⟩
    · rcases hrest d hd with ⟨hlast, hchain⟩
      refine ⟨List.forall_mem_cons.mpr ⟨Or.inr hd, hchars⟩, fun c hc => ⟨?_, ?_⟩⟩
      · rwa [List.nil_append, List.singleton_append, List.getLast?_cons_cons]
      · exact List.isChain_cons_cons.mpr ⟨Or.inl (hne c hc), hchain⟩
    · rcases hrest d hd with ⟨hlast, hchain⟩
      refine ⟨List.forall_mem_cons.mpr ⟨Or.inl rfl, List.forall_mem_cons.mpr ⟨Or.inr hd, hchars⟩⟩,
        fun c hc => ⟨?_, ?_⟩⟩
      · change (c :: separator :: d :: rest).getLast? ≠ some separator
        rwa [List.getLast?_cons_cons, List.getLast?_cons_cons]
      · exact List.isChain_cons_cons.mpr ⟨Or.inl (hne c hc),
          List.isChain_cons_cons.mpr ⟨Or.inr (hne d hd), hchain⟩⟩

theorem hasDoubleDot_of_isChain {cs : List Char} (h : cs.IsChain fun a b => a ≠ '.' ∨ b ≠ '.') :
    hasDoubleDot cs = false := by
  induction h with
  | nil => rfl
  | singleton => rfl
  | cons_cons hab _ ih =>
      rw [hasDoubleDot, ih, Bool.or_false]
      rcases hab with ha | hb
      · rw [decide_eq_false ha, Bool.false_and]
      · rw [decide_eq_false hb, Bool.and_false]

/-- The local part of a plain address, which is not empty: letters, digits, punctuation and dots,
    where a dot stands neither at an end nor next to another one, and no grave accent opens it. -/
structure IsPlainLocal (cs : List Char) : Prop where
  /-- Its characters are letters, digits, punctuation and dots. -/
  members : ∀ c ∈ cs, c.isAlphanum = true ∨ c ∈ punctuation ∨ c = '.'
  /-- It opens with neither a dot nor a grave accent. -/
  opening : ∃ first, cs.head? = some first ∧ first ≠ '.' ∧ first ≠ '\x60'
  /-- It does not end with a dot. -/
  ending : cs.getLast? ≠ some '.'
  /-- It has no two dots side by side. -/
  spaced : cs.IsChain fun a b => a ≠ '.' ∨ b ≠ '.'

/-- What the pattern says of a local part. -/
theorem plainLocal_of_matches {cs : List Char} (h : Matches localPattern cs) : IsPlainLocal cs := by
  simp only [localPattern, seq_matches, one_matches] at h
  rcases h with ⟨_, rest, rfl, ⟨first, rfl, hfirst⟩, hrest⟩
  rcases Bool.and_eq_true _ _ ▸ hfirst with ⟨hatom, hgrave⟩
  rcases joined_of_matches (by decide) hrest with ⟨hchars, hjoined⟩
  rcases hjoined first hatom with ⟨hlast, hchain⟩
  have hmembers : ∀ c ∈ first :: rest, c = '.' ∨ isAtom c = true :=
    List.forall_mem_cons.mpr ⟨Or.inr hatom, hchars⟩
  refine ⟨fun c hc => ?_, ⟨first, rfl, (ne_of_isAtom hatom).1, of_decide_eq_true hgrave⟩, hlast,
    hchain⟩
  rcases hmembers c hc with hdot | hc
  · exact Or.inr (Or.inr hdot)
  · exact (isAtom_iff.mp hc).imp_right Or.inl

theorem IsPlainLocal.at_not_mem {cs : List Char} (h : IsPlainLocal cs) : '@' ∉ cs := fun hat => by
  rcases h.members '@' hat with hat | hat | hat
  · exact (ne_of_isAlphanum hat).2.2 rfl
  · exact absurd hat (by decide)
  · exact absurd hat (by decide)

/-- A plain local part is an international one. -/
theorem local_of_matches {cs : List Char} (h : Matches localPattern cs) :
    isInternationalLocal cs = true ∧ '@' ∉ cs := by
  have hplain := plainLocal_of_matches h
  refine ⟨?_, hplain.at_not_mem⟩
  rcases hplain with ⟨hmembers, ⟨first, hfirst, hdot, _⟩, hlast, hchain⟩
  have hhead : cs.head? ≠ some '.' := by
    rw [hfirst, ne_eq, Option.some.injEq]
    exact hdot
  have hne : cs ≠ [] := by
    rintro rfl
    exact absurd hfirst (by simp only [List.head?_nil, reduceCtorEq, not_false_eq_true])
  have hall : (cs.all fun c => c = '.' || punctuation.contains c || isWordChar c) = true := by
    refine List.all_eq_true.mpr fun c hc => ?_
    rcases hmembers c hc with hc | hc | hc
    · rw [isWordChar_of_isAlphanum hc, Bool.or_true]
    · rw [List.contains_iff_mem.mpr hc, Bool.or_true, Bool.true_or]
    · rw [decide_eq_true hc, Bool.true_or, Bool.true_or]
  unfold isInternationalLocal
  rw [hall, hasDoubleDot_of_isChain hchain, decide_eq_true hhead, decide_eq_true hlast,
    decide_eq_true hne]
  rfl

/-- A label as the plain grammar knows it: a letter or digit, and then letters, digits and
    hyphens. -/
def IsPlainLabel (label : List Char) : Prop :=
  ∃ first rest, label = first :: rest ∧ first.isAlphanum = true ∧
    ∀ c ∈ rest, c.isAlphanum = true ∨ c = '-'

namespace IsPlainLabel

variable {label : List Char}

theorem members (h : IsPlainLabel label) : ∀ c ∈ label, c.isAlphanum = true ∨ c = '-' := by
  rcases h with ⟨first, rest, rfl, hfirst, hrest⟩
  exact List.forall_mem_cons.mpr ⟨Or.inl hfirst, hrest⟩

theorem dot_not_mem (h : IsPlainLabel label) : '.' ∉ label := fun hmem =>
  (h.members '.' hmem).elim (fun hdot => (ne_of_isAlphanum hdot).1 rfl) (by decide)

theorem at_not_mem (h : IsPlainLabel label) : '@' ∉ label := fun hmem =>
  (h.members '@' hmem).elim (fun hat => (ne_of_isAlphanum hat).2.2 rfl) (by decide)

theorem append (h : IsPlainLabel label) {cs : List Char}
    (hcs : ∀ c ∈ cs, c.isAlphanum = true ∨ c = '-') : IsPlainLabel (label ++ cs) := by
  rcases h with ⟨first, rest, rfl, hfirst, hrest⟩
  exact ⟨first, rest ++ cs, rfl, hfirst, List.forall_mem_append.mpr ⟨hrest, hcs⟩⟩

theorem singleton {c : Char} (h : c.isAlphanum = true) : IsPlainLabel [c] :=
  ⟨c, [], rfl, h, fun _ hmem => absurd hmem List.not_mem_nil⟩

theorem ne_nil (h : IsPlainLabel label) : label ≠ [] := by
  rcases h with ⟨first, rest, rfl, _⟩
  exact List.cons_ne_nil first rest

/-- A plain label is an international one as soon as it does not end in a hyphen. -/
theorem isInternationalLabel_iff (h : IsPlainLabel label) :
    isInternationalLabel label = true ↔ label.getLast? ≠ some '-' := by
  have hmembers : (label.all fun c => c = '-' || isWordChar c) = true := by
    refine List.all_eq_true.mpr fun c hc => ?_
    rcases h.members c hc with hc | hc
    · rw [isWordChar_of_isAlphanum hc, Bool.or_true]
    · rw [decide_eq_true hc, Bool.true_or]
  rcases h with ⟨first, rest, rfl, hfirst, _⟩
  have hhead : (first :: rest).head? ≠ some '-' := by
    rw [List.head?_cons, ne_eq, Option.some.injEq]
    exact (ne_of_isAlphanum hfirst).2.1
  unfold isInternationalLabel
  rw [hmembers, decide_eq_true hhead, decide_eq_true (List.cons_ne_nil first rest),
    Bool.and_true, Bool.true_and, Bool.true_and, decide_eq_true_iff]

end IsPlainLabel

/-- A label ends with a letter or digit. -/
def EndsClosed (label : List Char) : Prop :=
  ∃ c, label.getLast? = some c ∧ c.isAlphanum = true

theorem IsPlainLabel.endsClosed {label : List Char} (h : IsPlainLabel label)
    (hlast : label.getLast? ≠ some '-') : EndsClosed label := by
  have hend : label.getLast? = some (label.getLast h.ne_nil) := List.getLast?_eq_some_getLast h.ne_nil
  refine ⟨label.getLast h.ne_nil, hend, ?_⟩
  refine (h.members _ (List.getLast_mem h.ne_nil)).resolve_right fun hhyphen => hlast ?_
  rw [hend, hhyphen]

theorem EndsClosed.getLast?_ne {label : List Char} (h : EndsClosed label) :
    label.getLast? ≠ some '-' := by
  rcases h with ⟨c, hlast, hc⟩
  rw [hlast, ne_eq, Option.some.injEq]
  exact (ne_of_isAlphanum hc).2.1

/-- What is put in front does not change how a text ends. -/
theorem EndsClosed.append {back : List Char} (h : EndsClosed back) (front : List Char) :
    EndsClosed (front ++ back) := by
  rcases h with ⟨c, hlast, hc⟩
  refine ⟨c, ?_, hc⟩
  rw [List.getLast?_append, hlast, Option.some_or]

/-- What a plain domain asks of its last label, more than of any label. -/
structure IsTopLabel (label : List Char) : Prop where
  /-- It opens with a letter. -/
  opening : ∃ first, label.head? = some first ∧ first.isAlpha = true
  /-- It has at least two characters. -/
  long : 2 ≤ label.length
  /-- It ends with a letter or digit. -/
  ending : EndsClosed label
  /-- It has no two hyphens side by side. -/
  spaced : label.IsChain fun a b => a ≠ '-' ∨ b ≠ '-'

/-- The labels of a plain domain, of which there are at least two. -/
structure ArePlainLabels (labels : List (List Char)) : Prop where
  /-- Every one of them is a plain label. -/
  plain : ∀ label ∈ labels, IsPlainLabel label
  /-- The last one is as it has to be, and the one in front of it ends with no hyphen. -/
  ending : ∃ front inner top, labels = front ++ [inner, top] ∧ EndsClosed inner ∧ IsTopLabel top

theorem hyphens_of_matches {cs : List Char} (h : Matches (many (char '-')) cs) :
    ∀ c ∈ cs, c = '-' := by
  refine many_induction (fun c hc => absurd hc List.not_mem_nil) ?_ h
  intro s rest hs hrest
  rw [char_matches] at hs
  exact hs ▸ List.forall_mem_cons.mpr ⟨rfl, hrest⟩

/-- The middle of a plain domain, behind what there is already of a label, makes plain labels
    only. Each round goes on with the label, or ends it with a dot and opens the next one. -/
theorem plain_of_matches {cs : List Char}
    (h : Matches (many (sequence [many (char '-'), maybe (char '.'), one Char.isAlphanum])) cs) :
    ∀ label, IsPlainLabel label → ∀ part ∈ splitAt '.' (label ++ cs), IsPlainLabel part := by
  refine many_induction ?_ ?_ h
  · intro label hlabel part hpart
    rw [List.append_nil, splitAt_of_not_mem hlabel.dot_not_mem, List.mem_singleton] at hpart
    exact hpart ▸ hlabel
  · intro s rest hs hrest label hlabel part hpart
    simp only [Pattern.sequence, seq_matches, maybe_matches, char_matches, one_matches] at hs
    rcases hs with ⟨hyphens, _, rfl, hhyphens, _, _, rfl, rfl | rfl, c, rfl, hc⟩
    · -- Without a dot the label goes on.
      have hgrown : IsPlainLabel (label ++ (hyphens ++ [c])) :=
        hlabel.append (List.forall_mem_append.mpr
          ⟨fun d hd => Or.inr (hyphens_of_matches hhyphens d hd),
            List.forall_mem_singleton.mpr (Or.inl hc)⟩)
      refine hrest _ hgrown part ?_
      rwa [List.append_assoc]
    · -- A dot ends the label as it stands, with its hyphens.
      have hclosed : IsPlainLabel (label ++ hyphens) :=
        hlabel.append fun d hd => Or.inr (hyphens_of_matches hhyphens d hd)
      have hsplit : label ++ (hyphens ++ (['.'] ++ [c]) ++ rest) =
          (label ++ hyphens) ++ '.' :: ([c] ++ rest) := by
        simp only [List.append_assoc, List.cons_append, List.nil_append]
      rw [hsplit, splitAt_append, List.mem_append, splitAt_of_not_mem hclosed.dot_not_mem,
        List.mem_singleton] at hpart
      rcases hpart with rfl | hpart
      · exact hclosed
      · exact hrest [c] (IsPlainLabel.singleton hc) part hpart

/-- The middle of a plain domain ends with a letter or digit, if what stands in front of it does. -/
theorem closed_of_matches {cs : List Char}
    (h : Matches (many (sequence [many (char '-'), maybe (char '.'), one Char.isAlphanum])) cs) :
    ∀ c, c.isAlphanum = true → EndsClosed (c :: cs) := by
  refine many_induction (fun c hc => ⟨c, rfl, hc⟩) ?_ h
  intro s rest hs hrest c _
  simp only [Pattern.sequence, seq_matches, maybe_matches, char_matches, one_matches] at hs
  rcases hs with ⟨hyphens, _, rfl, _, dot, _, rfl, _, d, rfl, hd⟩
  have hsplit : c :: (hyphens ++ (dot ++ [d]) ++ rest) = (c :: (hyphens ++ dot)) ++ d :: rest := by
    simp only [List.append_assoc, List.cons_append, List.nil_append]
  exact hsplit ▸ (hrest d hd).append (c :: (hyphens ++ dot))

/-- A plain domain has plain labels. -/
theorem labels_of_matches {cs : List Char} (h : Matches domainPattern cs) :
    ArePlainLabels (splitAt '.' cs) := by
  simp only [domainPattern, Pattern.sequence, oneOrMore, seq_matches, one_matches, char_matches]
    at h
  rcases h with ⟨_, _, rfl, ⟨opening, rfl, hopening⟩, middle, _, rfl, hmiddle, _, _, rfl, rfl, _,
    rest, rfl, ⟨first, rfl, hfirst⟩, s, t, rfl, hs, ht⟩
  have hrest : Matches (many (seq (maybe (char '-')) (one Char.isAlphanum))) (s ++ t) := by
    refine .more ?_ ht
    simpa only [seq_matches, one_matches] using hs
  have hne : s ++ t ≠ [] := by
    rcases hs with ⟨_, _, rfl, _, c, rfl, _⟩
    simp only [ne_eq, List.append_eq_nil_iff, List.cons_ne_nil, and_false, false_and,
      not_false_eq_true]
  rcases joined_of_matches (by decide) hrest with ⟨hchars, hjoined⟩
  have halphanum := isAlphanum_of_isAlpha hfirst
  rcases hjoined first halphanum with ⟨hend, hspaced⟩
  have htop : IsPlainLabel (first :: (s ++ t)) :=
    ⟨first, s ++ t, rfl, halphanum, fun c hc => (hchars c hc).symm⟩
  have hsplit : splitAt '.' ([opening] ++ (middle ++ (['.'] ++ ([first] ++ (s ++ t))))) =
      splitAt '.' ([opening] ++ middle) ++ [first :: (s ++ t)] := by
    have happend := splitAt_append '.' ([opening] ++ middle) (first :: (s ++ t))
    rw [splitAt_of_not_mem htop.dot_not_mem] at happend
    rw [← happend]
    simp only [List.cons_append, List.nil_append]
  have hplain := plain_of_matches hmiddle [opening] (IsPlainLabel.singleton hopening)
  rcases List.eq_nil_or_concat (splitAt '.' ([opening] ++ middle)) with hnil | ⟨front, inner, hfront⟩
  · exact absurd hnil (splitAt_ne_nil '.' _)
  · rw [List.concat_eq_append] at hfront
    rw [hsplit, hfront]
    rw [hfront] at hplain
    have hinner : IsPlainLabel inner :=
      hplain inner (List.mem_append_right _ (List.mem_singleton_self inner))
    refine ⟨List.forall_mem_append.mpr ⟨hplain, List.forall_mem_singleton.mpr htop⟩, front, inner,
      first :: (s ++ t), List.append_assoc _ _ _, ?_, ⟨first, rfl, hfirst⟩, ?_,
      htop.endsClosed hend, hspaced⟩
    · unfold EndsClosed
      rw [← getLast?_of_splitAt hfront hinner.ne_nil]
      exact closed_of_matches hmiddle opening hopening
    · have hlength := List.length_pos_iff.mpr hne
      rw [List.length_cons]
      omega

theorem at_not_mem_of_matches {cs : List Char} (h : Matches domainPattern cs) : '@' ∉ cs := by
  intro hat
  have hpart : '@' = '.' ∨ ∃ part ∈ splitAt '.' cs, '@' ∈ part := mem_splitAt hat
  rcases hpart with hdot | ⟨part, hpart, hat⟩
  · exact absurd hdot (by decide)
  · exact ((labels_of_matches h).plain part hpart).at_not_mem hat

/-- A plain domain is an international one if and only if no label ends in a hyphen. -/
theorem isInternationalDomain_iff {cs : List Char} (h : Matches domainPattern cs) :
    isInternationalDomain cs = true ↔ ∀ label ∈ splitAt '.' cs, label.getLast? ≠ some '-' := by
  rcases labels_of_matches h with ⟨hplain, front, inner, top, hsplit, _, htop⟩
  rcases htop.opening with ⟨first, hhead, hfirst⟩
  have hcount : 2 ≤ (splitAt '.' cs).length := by
    rw [hsplit, List.length_append]
    exact Nat.le_add_left 2 front.length
  have hend : (splitAt '.' cs).getLast? = some top := by
    rw [hsplit, List.append_cons, List.getLast?_concat]
  unfold isInternationalDomain
  simp only [hend, decide_eq_true hcount, decide_eq_true htop.long, hhead, Option.any_some,
    isLetter_of_isAlpha hfirst, Bool.true_and, Bool.and_true, List.all_eq_true]
  exact forall₂_congr fun label hlabel => (hplain label hlabel).isInternationalLabel_iff

end Parts

/-- A plain address, taken apart. -/
theorem parts_of_matches {cs : List Char} (h : Matches pattern cs) :
    ∃ front back, cs = front ++ '@' :: back ∧ Matches localPattern front ∧
      Matches domainPattern back := by
  simp only [pattern, Pattern.sequence, seq_matches, char_matches] at h
  rcases h with ⟨front, _, rfl, hfront, _, back, rfl, rfl, hback⟩
  exact ⟨front, back, rfl, hfront, hback⟩

/-- A plain address is an international one if and only if no label of its domain ends in a
    hyphen. -/
theorem international_iff_of_plain {s : String} (h : isEmail false s = true) :
    isEmail true s = true ↔
      ∀ label ∈ splitAt '.' (halves s.toList).2, label.getLast? ≠ some '-' := by
  simp only [isEmail, Bool.and_eq_true, if_true, Bool.false_eq_true, if_false, accepts_iff] at h ⊢
  rcases h with ⟨hlimits, hmatches⟩
  rcases parts_of_matches hmatches with ⟨front, back, hs, hfront, hback⟩
  rcases local_of_matches hfront with ⟨hlocal, hat⟩
  have hhalves : halves s.toList = (front, back) := by rw [hs, halves_append hat]
  have hcount : s.toList.count '@' = 1 := by
    rw [hs, List.count_append, List.count_cons_self, List.count_eq_zero.mpr hat,
      List.count_eq_zero.mpr (at_not_mem_of_matches hback)]
  have hparts : isInternational s.toList = isInternationalDomain back := by
    rw [isInternational, hhalves, hlocal, decide_eq_true hcount, Bool.true_and, Bool.true_and]
  rw [hparts, isInternationalDomain_iff hback, hhalves]
  exact and_iff_right hlimits

/-- Dots and marks in front of the at sign, and hyphens behind it that do not end a label. -/
theorem international_iff_of_plain_hyphenated :
    isEmail false "first.l'ast@mail.ex-ample.org" = true ∧
      (isEmail true "first.l'ast@mail.ex-ample.org" = true ↔
        ∀ label ∈ splitAt '.' (halves "first.l'ast@mail.ex-ample.org".toList).2,
          label.getLast? ≠ some '-') :=
  ⟨by decide, international_iff_of_plain (by decide)⟩

/-- A hyphen in front of a dot is plain and not international. -/
theorem hyphen_before_dot :
    isEmail false "a@b-.c.de" = true ∧ isEmail true "a@b-.c.de" = false := by
  decide

end Email

end Attest
