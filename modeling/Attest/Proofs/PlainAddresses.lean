import Attest.Primitive
import Attest.Proofs.Addresses

/-!
# The Grammar of Plain Addresses

The plain grammar, said without a pattern.

The pattern goes through an address from the left and may stop in many ways: hyphens and dots are
both optional in front of each letter or digit, so there is often more than one way to cut a domain
into rounds. What it accepts is easier to say of the finished parts. A local part is a text in
which dots stand alone and at neither end. A domain is a list of labels, of which the last one is
held to more than the others and the one in front of it to a little more.

That a match has these parts is read off its rounds, which is done where the two grammars are
compared. Here it is turned around: parts that are as described can be cut into rounds again. Both
times the pattern repeats a group whose first half may be absent, so the text is gone through from
the right, and what is already cut only has to be continued in front.

## Main definitions

* `Email.round`: What the pattern repeats in the middle of a domain.
* `Email.IsPlainAddress`: A plain address within the limits of length.

## Theorems

* `matches_of_joined`: Members of a class with single separators between them match.
* `local_matches_iff`: The local parts that match.
* `middle_append`, `matches_of_labels`: Labels are cut into the rounds of the middle of a domain.
* `domain_matches_iff`: The domains that match.
* `email_holds_iff`: The values that are plain addresses.
-/

namespace Attest

namespace Email

open Pattern

/-- A plain address: a local part and a domain around the only at sign, all within the limits of
    length. -/
structure IsPlainAddress (cs : List Char) : Prop where
  /-- It has at most 254 characters. -/
  length_le : cs.length ≤ 254
  /-- It has one at sign. -/
  count_at : cs.count '@' = 1
  /-- In front of it stands a local part and behind it a domain. -/
  parts : ∃ front back, cs = front ++ '@' :: back ∧ (front.length ≤ 64 ∧ IsPlainLocal front) ∧
    ArePlainLabels (back.splitOn '.') ∧ ∀ label ∈ back.splitOn '.', label.length ≤ 63

section Local

/-- Members of a class match with at most one separator between two of them. What stands in front
    is a member, or a separator that is still to be put in front of one. -/
theorem matches_of_joined {separator : Char} {isMember : Char → Bool} {cs : List Char}
    (hchars : ∀ c ∈ cs, c = separator ∨ isMember c = true) :
    ∀ c, (c :: cs).getLast? ≠ some separator →
      ((c :: cs).IsChain fun a b => a ≠ separator ∨ b ≠ separator) →
      (isMember c = true →
        Matches (many (seq (maybe (char separator)) (one isMember))) cs) ∧
      (c = separator →
        Matches (many (seq (maybe (char separator)) (one isMember))) (separator :: cs)) := by
  induction cs with
  | nil =>
      intro c hlast _
      exact ⟨fun _ => .done, fun hc => absurd (congrArg some hc) hlast⟩
  | cons d cs ih =>
      intro c hlast hchain
      rcases List.forall_mem_cons.mp hchars with ⟨hd, hrest⟩
      rw [List.getLast?_cons_cons] at hlast
      rcases List.isChain_cons_cons.mp hchain with ⟨hcd, hchain⟩
      rcases ih hrest d hlast hchain with ⟨hmember, hseparator⟩
      refine ⟨fun _ => ?_, fun hc => ?_⟩
      · rcases hd with rfl | hd
        · exact hseparator rfl
        · exact .more (s := [d]) (.seq (s := []) (.left .empty) (.one hd)) (hmember hd)
      · -- A separator is followed by a member, with which it makes a round.
        have hdne : d ≠ separator := hcd.resolve_left fun hne => hne hc
        have hd : isMember d = true := hd.resolve_left hdne
        have hround : Matches (seq (maybe (char separator)) (one isMember)) [separator, d] :=
          .seq (s := [separator]) (.right (.one (decide_eq_true rfl))) (.one hd)
        exact .more hround (hmember hd)

/-- The local parts that match. -/
theorem local_matches_iff {cs : List Char} : Matches localPattern cs ↔ IsPlainLocal cs := by
  refine ⟨plainLocal_of_matches, fun h => ?_⟩
  rcases h with ⟨hmembers, ⟨first, hhead, hdot, hgrave⟩, hending, hspaced⟩
  rcases List.head?_eq_some_iff.mp hhead with ⟨rest, rfl⟩
  have hatoms : ∀ c ∈ first :: rest, c = '.' ∨ isAtom c = true := fun c hc => by
    rcases hmembers c hc with hc | hc | hc
    · exact Or.inr (isAtom_iff.mpr (Or.inl hc))
    · exact Or.inr (isAtom_iff.mpr (Or.inr hc))
    · exact Or.inl hc
  rcases List.forall_mem_cons.mp hatoms with ⟨hfirst, hrest⟩
  have hatom : isAtom first = true := hfirst.resolve_left hdot
  have hopening : isOpening first = true := by
    rw [isOpening, hatom, decide_eq_true hgrave]
    rfl
  exact .seq (.one hopening) ((matches_of_joined hrest first hending hspaced).1 hatom)

end Local

section Domain

/-- What the middle of a plain domain repeats. -/
def round : Pattern :=
  sequence [many (char '-'), maybe (char '.'), one Char.isAlphanum]

theorem round_of_isAlphanum {c : Char} (h : c.isAlphanum = true) : Matches round [c] :=
  .seq (s := []) .done (.seq (s := []) (.left .empty) (.one h))

theorem round_dot {c : Char} (h : c.isAlphanum = true) : Matches round ['.', c] :=
  .seq (s := []) .done (.seq (s := ['.']) (.right (.one (decide_eq_true rfl))) (.one h))

/-- A round may have one more hyphen in front. -/
theorem round_hyphen {cs : List Char} (h : Matches round cs) : Matches round ('-' :: cs) := by
  rcases (seq_matches _ _ _).mp h with ⟨hyphens, rest, rfl, hhyphens, hrest⟩
  exact .seq (s := '-' :: hyphens) (.more (s := ['-']) (.one (decide_eq_true rfl)) hhyphens) hrest

/-- What is in rounds may have one more hyphen in front, which goes to the first of them. -/
theorem middle_hyphen {cs : List Char} (h : Matches (many round) cs) (hne : cs ≠ []) :
    Matches (many round) ('-' :: cs) := by
  cases h with
  | done => exact absurd rfl hne
  | more hround hrest => exact .more (round_hyphen hround) hrest

/-- Letters, digits and hyphens go into rounds in front of what is in rounds already, if there is
    nothing left that a hyphen could stand in front of. -/
theorem middle_append {cs rest : List Char} (hchars : ∀ c ∈ cs, c.isAlphanum = true ∨ c = '-')
    (hrest : Matches (many round) rest) (hend : (cs ++ rest).getLast? ≠ some '-') :
    Matches (many round) (cs ++ rest) := by
  induction cs with
  | nil => exact hrest
  | cons c cs ih =>
      rcases List.forall_mem_cons.mp hchars with ⟨hc, hchars⟩
      by_cases hne : cs ++ rest = []
      · have hlast : c.isAlphanum = true := hc.resolve_right fun hhyphen => hend (by
          rw [List.cons_append, hne, hhyphen]
          rfl)
        rw [List.cons_append, hne]
        exact .more (s := [c]) (round_of_isAlphanum hlast) .done
      · rw [List.cons_append, List.getLast?_cons_of_ne_nil hne] at hend
        have hmiddle := ih hchars hend
        rcases hc with hc | rfl
        · exact .more (s := [c]) (round_of_isAlphanum hc) hmiddle
        · exact middle_hyphen hmiddle hne

/-- Plain labels, the last of which ends with a letter or digit, make the front of a domain. -/
theorem matches_of_labels {front : List (List Char)} {inner : List Char}
    (hfront : ∀ label ∈ front, IsPlainLabel label) (hinner : IsPlainLabel inner)
    (hclosed : EndsClosed inner) :
    ∃ opening middle, ['.'].intercalate (front ++ [inner]) = opening :: middle ∧
      opening.isAlphanum = true ∧ Matches (many round) middle ∧ EndsClosed (opening :: middle) := by
  induction front with
  | nil =>
      rcases hinner with ⟨opening, middle, rfl, hopening, hmiddle⟩
      refine ⟨opening, middle, List.intercalate_singleton, hopening, ?_, hclosed⟩
      by_cases hne : middle = []
      · exact hne ▸ .done
      · have hend := hclosed.getLast?_ne
        rw [List.getLast?_cons_of_ne_nil hne, ← List.append_nil middle] at hend
        exact List.append_nil middle ▸ middle_append hmiddle .done hend
  | cons label front ih =>
      rcases List.forall_mem_cons.mp hfront with ⟨hlabel, hlater⟩
      rcases hlabel with ⟨opening, rest, rfl, hopening, hrest⟩
      rcases ih hlater with ⟨next, middle, hjoined, hnext, hmiddle, hend⟩
      -- The dot behind the label makes a round with the first character of the next one.
      have hround : Matches (many round) ('.' :: next :: middle) :=
        .more (s := ['.', next]) (round_dot hnext) hmiddle
      have hdot : EndsClosed ('.' :: next :: middle) := hend.append ['.']
      refine ⟨opening, rest ++ '.' :: next :: middle, ?_, hopening,
        middle_append hrest hround (hdot.append rest).getLast?_ne, hdot.append (opening :: rest)⟩
      rw [List.cons_append, List.intercalate_cons_of_ne_nil (List.concat_ne_nil _ _), hjoined]
      simp only [List.cons_append, List.append_assoc, List.nil_append]

/-- The domains that match. -/
theorem domain_matches_iff {cs : List Char} :
    Matches domainPattern cs ↔ ArePlainLabels (splitAt '.' cs) := by
  refine ⟨labels_of_matches, fun h => ?_⟩
  rcases h with ⟨hplain, front, inner, top, hsplit, hclosed, htop⟩
  rw [hsplit] at hplain
  rcases List.forall_mem_append.mp hplain with ⟨hfront, hlast⟩
  rcases List.forall_mem_cons.mp hlast with ⟨hinner, hlast⟩
  have hlabel : IsPlainLabel top := hlast top (List.mem_singleton_self top)
  rcases matches_of_labels hfront hinner hclosed with
    ⟨opening, middle, hjoined, hopening, hmiddle, _⟩
  rcases htop.opening with ⟨first, hhead, hfirst⟩
  rcases List.head?_eq_some_iff.mp hhead with ⟨rest, rfl⟩
  have hcs : cs = [opening] ++ (middle ++ (['.'] ++ ([first] ++ rest))) := by
    rw [← intercalate_splitAt '.' cs, hsplit, List.append_cons,
      intercalate_concat '.' (List.concat_ne_nil _ _), hjoined]
    simp only [List.cons_append, List.nil_append]
  have hchars : ∀ c ∈ rest, c = '-' ∨ c.isAlphanum = true := fun c hc =>
    (hlabel.members c (List.mem_cons_of_mem _ hc)).symm
  have hrest := (matches_of_joined hchars first htop.ending.getLast?_ne htop.spaced).1
    (isAlphanum_of_isAlpha hfirst)
  have hlong : rest ≠ [] := by
    rintro rfl
    exact absurd htop.long (Nat.not_succ_le_self 1)
  rw [hcs]
  refine .seq (.one hopening) (.seq hmiddle (.seq (.one (decide_eq_true rfl))
    (.seq (.one hfirst) ?_)))
  cases hrest with
  | done => exact absurd rfl hlong
  | more hround hrest => exact .seq hround hrest

end Domain

/-- A text matches the plain grammar exactly if it is a local part and a domain with an at sign
    between them. -/
theorem pattern_matches_iff {cs : List Char} : Matches pattern cs ↔
    ∃ front back, cs = front ++ '@' :: back ∧ IsPlainLocal front ∧
      ArePlainLabels (splitAt '.' back) := by
  constructor
  · intro h
    rcases parts_of_matches h with ⟨front, back, hcs, hfront, hback⟩
    exact ⟨front, back, hcs, local_matches_iff.mp hfront, domain_matches_iff.mp hback⟩
  · rintro ⟨front, back, rfl, hfront, hback⟩
    exact .seq (local_matches_iff.mpr hfront)
      (.seq (s := ['@']) (.one (decide_eq_true rfl)) (domain_matches_iff.mpr hback))

theorem withinLimits_iff {front back : List Char} (hat : '@' ∉ front) :
    withinLimits (front ++ '@' :: back) = true ↔ (front ++ '@' :: back).length ≤ 254 ∧
      front.length ≤ 64 ∧ ∀ label ∈ splitAt '.' back, label.length ≤ 63 := by
  have hpos : 0 < (front ++ '@' :: back).length := by
    rw [List.length_append, List.length_cons]
    omega
  simp only [withinLimits, halves_append hat, hpos, Bool.and_eq_true, decide_eq_true_eq,
    List.all_eq_true, true_and, and_assoc]

/-- A text is an email address of the plain grammar exactly if it has its parts. -/
theorem isEmail_iff {s : String} : isEmail false s = true ↔ IsPlainAddress s.toList := by
  simp only [isEmail, Bool.and_eq_true, Bool.false_eq_true, if_false, accepts_iff,
    pattern_matches_iff]
  constructor
  · rintro ⟨hlimits, front, back, hs, hfront, hback⟩
    rw [hs] at hlimits ⊢
    rcases (withinLimits_iff hfront.at_not_mem).mp hlimits with ⟨hlength, hlocal, hlabels⟩
    refine ⟨hlength, ?_, front, back, rfl, ⟨hlocal, hfront⟩, ?_⟩
    · rw [List.count_append, List.count_cons_self, List.count_eq_zero.mpr hfront.at_not_mem,
        List.count_eq_zero.mpr (at_not_mem_of_matches (domain_matches_iff.mpr hback))]
    · rw [← splitAt_eq_splitOn]
      exact ⟨hback, hlabels⟩
  · rintro ⟨hlength, _, front, back, hs, ⟨hlocal, hfront⟩, hdomain⟩
    rw [← splitAt_eq_splitOn] at hdomain
    rw [hs] at hlength ⊢
    exact ⟨(withinLimits_iff hfront.at_not_mem).mpr ⟨hlength, hlocal, hdomain.2⟩, front, back, rfl,
      hfront, hdomain.1⟩

/-- A value is an email address exactly if it is a text of at most 254 characters with one at sign,
    a local part of at most 64 characters in front of it, and behind it, between the dots, labels
    of at most 63 characters. -/
theorem email_holds_iff (v : Value) :
    Primitive.email.holds v = true ↔ ∃ s, v = .text s ∧ IsPlainAddress s.toList := by
  simp only [Primitive.holds, ← isEmail_iff]
  cases v with
  | text s => simp only [Value.isTextWith, Value.text.injEq, exists_eq_left']
  | _ => simp only [Value.isTextWith, Bool.false_eq_true, reduceCtorEq, false_and, exists_false]

/-- A hyphen may stand in front of a dot, but not of the last one. -/
example : isEmail false "a@b-.c.de" = true ∧ isEmail false "a@b.c-.de" = false := by
  decide

end Email

end Attest
