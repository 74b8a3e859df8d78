/-!
# Patterns

Regular patterns over characters, and the texts that match them.

A pattern is read as the set of texts it describes, the relation `Matches`. The
test goes through the text once: after each character it keeps the pattern that
the rest of the text has to match, the *remainder* of the pattern. A text matches
if the last remainder describes the empty text. Remainders are simplified as they
are built, so they stay as small as the patterns they come from.

## Main definitions

* `Pattern`: Regular patterns.
* `Pattern.Matches`: The texts that a pattern describes.
* `Pattern.remainder`: What has to follow a character.
* `Pattern.accepts`: The test whether a text matches.

## Theorems

* `many_induction`: What holds of every text that is made of a pattern any number of times.
* `accepts_iff`: The test succeeds exactly on the texts that match.
-/

namespace Attest

/-- A regular pattern over characters. -/
inductive Pattern where
  /-- No text at all. -/
  | never
  /-- The empty text. -/
  | empty
  /-- One character of a class. -/
  | one (isMember : Char → Bool)
  /-- One pattern and then another. -/
  | seq (first second : Pattern)
  /-- One pattern or another. -/
  | alt (left right : Pattern)
  /-- A pattern any number of times. -/
  | many (body : Pattern)

namespace Pattern

/-- The texts that a pattern describes. -/
inductive Matches : Pattern → List Char → Prop where
  | empty : Matches empty []
  | one {isMember : Char → Bool} {c : Char} (h : isMember c = true) : Matches (one isMember) [c]
  | seq {p q : Pattern} {s t : List Char} (hs : Matches p s) (ht : Matches q t) :
      Matches (seq p q) (s ++ t)
  | left {p q : Pattern} {s : List Char} (h : Matches p s) : Matches (alt p q) s
  | right {p q : Pattern} {s : List Char} (h : Matches q s) : Matches (alt p q) s
  | done {p : Pattern} : Matches (many p) []
  | more {p : Pattern} {s t : List Char} (hs : Matches p s) (ht : Matches (many p) t) :
      Matches (many p) (s ++ t)

/-- Whether a pattern describes the empty text. -/
def isNullable : Pattern → Bool
  | never => false
  | empty => true
  | one _ => false
  | seq p q => p.isNullable && q.isNullable
  | alt p q => p.isNullable || q.isNullable
  | many _ => true

/-- One pattern and then another, without the parts that add nothing. -/
def andThen : Pattern → Pattern → Pattern
  | never, _ => never
  | empty, q => q
  | p, q => seq p q

/-- One pattern or another, without the parts that add nothing. -/
def orElse : Pattern → Pattern → Pattern
  | never, q => q
  | p, never => p
  | p, q => alt p q

/-- The pattern of the texts that may follow a character in a text that matches. -/
def remainder (c : Char) : Pattern → Pattern
  | never => never
  | empty => never
  | one isMember => if isMember c then empty else never
  | seq p q =>
    if p.isNullable then orElse (andThen (p.remainder c) q) (q.remainder c)
    else andThen (p.remainder c) q
  | alt p q => orElse (p.remainder c) (q.remainder c)
  | many p => andThen (p.remainder c) (many p)

/-- Whether a text matches a pattern. -/
def accepts (p : Pattern) (cs : List Char) : Bool :=
  (cs.foldl (fun p c => p.remainder c) p).isNullable

/-- A pattern or nothing. -/
def maybe (p : Pattern) : Pattern :=
  alt empty p

/-- A pattern at least once. -/
def oneOrMore (p : Pattern) : Pattern :=
  seq p (many p)

/-- One given character. -/
def char (c : Char) : Pattern :=
  one (· = c)

/-- Patterns one after another. -/
def sequence : List Pattern → Pattern
  | [] => empty
  | [p] => p
  | p :: ps => seq p (sequence ps)

/-- A pattern describes the empty text exactly if it says so. -/
theorem isNullable_iff (p : Pattern) : p.isNullable = true ↔ Matches p [] := by
  constructor
  · intro h
    induction p with
    | never => simp [isNullable] at h
    | empty => exact .empty
    | one => simp [isNullable] at h
    | seq p q ihp ihq =>
        simp only [isNullable, Bool.and_eq_true] at h
        exact .seq (ihp h.1) (ihq h.2)
    | alt p q ihp ihq =>
        simp only [isNullable, Bool.or_eq_true] at h
        rcases h with h | h
        · exact .left (ihp h)
        · exact .right (ihq h)
    | many => exact .done
  · intro h
    generalize hs : ([] : List Char) = s at h
    induction h with
    | empty => rfl
    | one => simp at hs
    | seq _ _ ihp ihq =>
        have hst := List.append_eq_nil_iff.mp hs.symm
        simp [isNullable, ihp hst.1.symm, ihq hst.2.symm]
    | left _ ih => simp [isNullable, ih hs]
    | right _ ih => simp [isNullable, ih hs]
    | done => rfl
    | more => rfl

/-- Leaving out what adds nothing to a sequence does not change its texts. -/
theorem andThen_matches (p q : Pattern) (s : List Char) :
    Matches (andThen p q) s ↔ Matches (seq p q) s := by
  cases p with
  | never =>
      constructor
      · intro h; cases h
      · intro h; rcases h with _ | _ | ⟨h, _⟩; cases h
  | empty =>
      constructor
      · intro h; exact .seq (s := []) .empty h
      · intro h; rcases h with _ | _ | ⟨h, ht⟩; cases h; exact ht
  | one | seq | alt | many => exact Iff.rfl

/-- Leaving out what adds nothing to a choice does not change its texts. -/
theorem orElse_matches (p q : Pattern) (s : List Char) :
    Matches (orElse p q) s ↔ Matches p s ∨ Matches q s := by
  have halt : Matches (alt p q) s ↔ Matches p s ∨ Matches q s := by
    constructor
    · intro h
      cases h with
      | left h => exact Or.inl h
      | right h => exact Or.inr h
    · intro h
      rcases h with h | h
      · exact .left h
      · exact .right h
  have hnever : ¬ Matches never s := by intro h; cases h
  cases p <;> cases q <;> simp_all [orElse]

/-- The remainder of a pattern after a character describes what may follow it. -/
theorem remainder_matches (c : Char) (p : Pattern) (s : List Char) :
    Matches (p.remainder c) s ↔ Matches p (c :: s) := by
  induction p generalizing s with
  | never => constructor <;> intro h <;> cases h
  | empty => constructor <;> intro h <;> cases h
  | one isMember =>
      simp only [remainder]
      split
      · rename_i hc
        constructor
        · intro h; cases h; exact .one hc
        · intro h; cases h; exact .empty
      · rename_i hc
        constructor
        · intro h; cases h
        · intro h; cases h; contradiction
  | alt p q ihp ihq =>
      simp only [remainder, orElse_matches, ihp, ihq]
      constructor
      · intro h
        rcases h with h | h
        · exact .left h
        · exact .right h
      · intro h
        cases h with
        | left h => exact Or.inl h
        | right h => exact Or.inr h
  | seq p q ihp ihq =>
      have hfirst : Matches (andThen (p.remainder c) q) s → Matches (seq p q) (c :: s) := by
        intro h
        rw [andThen_matches] at h
        cases h with
        | seq hs ht => exact .seq ((ihp _).mp hs) ht
      have hsplit : Matches (seq p q) (c :: s) →
          Matches (andThen (p.remainder c) q) s ∨ (Matches p [] ∧ Matches (q.remainder c) s) := by
        intro h
        generalize hcs : c :: s = cs at h
        cases h with
        | @seq _ _ u v hu hv =>
            cases u with
            | nil =>
                simp only [List.nil_append] at hcs
                exact Or.inr ⟨hu, (ihq s).mpr (hcs ▸ hv)⟩
            | cons d u =>
                simp only [List.cons_append, List.cons.injEq] at hcs
                obtain ⟨rfl, rfl⟩ := hcs
                exact Or.inl ((andThen_matches _ _ _).mpr (.seq ((ihp u).mpr hu) hv))
      simp only [remainder]
      split
      · rename_i hnull
        rw [orElse_matches]
        constructor
        · intro h
          rcases h with h | h
          · exact hfirst h
          · exact .seq (s := []) ((isNullable_iff p).mp hnull) ((ihq s).mp h)
        · intro h
          rcases hsplit h with h | h
          · exact Or.inl h
          · exact Or.inr h.2
      · rename_i hnull
        constructor
        · exact hfirst
        · intro h
          rcases hsplit h with h | h
          · exact h
          · exact absurd ((isNullable_iff p).mpr h.1) hnull
  | many p ih =>
      simp only [remainder, andThen_matches]
      constructor
      · intro h
        cases h with
        | seq hs ht => exact .more ((ih _).mp hs) ht
      · intro h
        generalize hp : many p = r at h
        generalize hcs : c :: s = cs at h
        induction h generalizing s with
        | done => simp at hcs
        | @more p' u v hu hv _ ihv =>
            cases hp
            cases u with
            | nil =>
                simp only [List.nil_append] at hcs
                exact ihv s rfl hcs
            | cons d u =>
                simp only [List.cons_append, List.cons.injEq] at hcs
                obtain ⟨rfl, rfl⟩ := hcs
                exact .seq ((ih u).mpr hu) hv
        | _ => simp at hp

@[simp] theorem empty_matches (s : List Char) : Matches empty s ↔ s = [] := by
  constructor
  · intro h
    cases h
    rfl
  · rintro rfl
    exact .empty

@[simp] theorem one_matches (isMember : Char → Bool) (s : List Char) :
    Matches (one isMember) s ↔ ∃ c, s = [c] ∧ isMember c = true := by
  constructor
  · intro h
    cases h with
    | one h => exact ⟨_, rfl, h⟩
  · rintro ⟨c, rfl, h⟩
    exact .one h

@[simp] theorem seq_matches (p q : Pattern) (s : List Char) :
    Matches (seq p q) s ↔ ∃ t u, s = t ++ u ∧ Matches p t ∧ Matches q u := by
  constructor
  · intro h
    cases h with
    | seq hs ht => exact ⟨_, _, rfl, hs, ht⟩
  · rintro ⟨t, u, rfl, ht, hu⟩
    exact .seq ht hu

@[simp] theorem char_matches (c : Char) (s : List Char) : Matches (char c) s ↔ s = [c] := by
  simp only [char, one_matches, decide_eq_true_eq]
  constructor
  · rintro ⟨d, hs, rfl⟩
    exact hs
  · intro hs
    exact ⟨c, hs, rfl⟩

@[simp] theorem maybe_matches (p : Pattern) (s : List Char) :
    Matches (maybe p) s ↔ s = [] ∨ Matches p s := by
  constructor
  · intro h
    cases h with
    | left h => exact Or.inl ((empty_matches s).mp h)
    | right h => exact Or.inr h
  · rintro (rfl | h)
    · exact .left .empty
    · exact .right h

/-- What holds of the empty text, and survives one more of a pattern in front, holds of every text
    that is made of it any number of times. -/
@[elab_as_elim]
theorem many_induction {p : Pattern} {P : List Char → Prop} (done : P [])
    (more : ∀ s t, Matches p s → P t → P (s ++ t)) {s : List Char} (h : Matches (many p) s) :
    P s := by
  generalize hq : many p = q at h
  induction h with
  | done => exact done
  | more hs _ _ ih =>
      cases hq
      exact more _ _ hs (ih rfl)
  | _ => cases hq

/-- The test succeeds exactly on the texts that match. -/
theorem accepts_iff (p : Pattern) (cs : List Char) : p.accepts cs = true ↔ Matches p cs := by
  induction cs generalizing p with
  | nil => simp only [accepts, List.foldl_nil, isNullable_iff]
  | cons c cs ih =>
      have h := ih (p.remainder c)
      simp only [accepts, List.foldl_cons] at h ⊢
      rw [h, remainder_matches]

end Pattern

end Attest
