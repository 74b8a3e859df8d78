import Attest.Proofs.Localization

/-!
# Relocation

The same run at another place.

A tree of the library's own parts cannot look around. Whether it passes has nothing to do with
the place it is run at, and what it reports there depends on the text of the place alone. Both
hold for every such tree, including objects with a place of their own, cross-field entries and
predicates that raise. Only a function from outside is handed its context and may do with it as
it likes.

`run_family` is the common part of the two: a property that sequences preserve, and that holds
of everything that does not depend on the place, holds of a run if it holds of the failures at
the places below the start.

## Main definitions

* `Assertion.IsIntrinsic`: A node of the library's own.
* `Check.PassesAlike`: A computation ends with the same values at all places.
* `Assertion.Satisfies`: A value satisfies an assertion that stands at a part.

## Theorems

* `run_family`: Runs at several places, related by a property that sequences preserve.
* `run_dependsOnText`: An intrinsic tree looks at its place through the text of it.
* `satisfies_iff`: Whether an intrinsic tree passes does not depend on the place.
-/

namespace Attest

namespace Assertion

/-- A node of the library's own: neither a function from outside nor a plain value. -/
def IsIntrinsic : Assertion → Prop
  | callable _ | value _ => False
  | _ => True

section

variable {ι : Type} {Q : ∀ {α : Type}, (ι → Check α) → Prop}

/-- What the own check of an intrinsic node calls has a property, if the failures at its places
    have it, and everything that does not depend on the place. -/
theorem IsIntrinsic.fits {a : Assertion} (ha : a.IsIntrinsic)
    (hconst : ∀ {α : Type} (x : Check α), Q fun _ => x) {c : ι → Context} (hc : Reporting @Q c)
    (htest : ∀ message v, Q fun i => (Check.failText (testReport message v (c i)) : Check Unit)) :
    a.Fits @Q c := by
  cases a with
  | test predicate message => exact fun v => ⟨hconst (predicate v), htest message v⟩
  | object inner own rules =>
      rcases own with _ | provider
      · exact hc
      · have hroot : Reporting @Q fun _ => Context.root (some provider) :=
          ⟨fun _ => hconst (Check.failText _), fun _ _ => hconst (Check.fail _ [])⟩
        exact hroot
  | array element rules => exact fun identity _ v => hconst (identity v)
  | callable f => exact absurd ha id
  | value w => exact absurd ha id
  | _ => trivial

/-- Runs of an intrinsic tree at several places. -/
theorem run_family (hQ : Compositional @Q) (hconst : ∀ {α : Type} (x : Check α), Q fun _ => x)
    {c : ι → Context} (hc : ∀ path : List Step, Reporting @Q fun i => path.foldl Step.extend (c i))
    (htest : ∀ (path : List Step) message v, Q fun i =>
      (Check.failText (testReport message v (path.foldl Step.extend (c i))) : Check Unit))
    {a : Assertion} (ha : a.Everywhere IsIntrinsic) (position : Position) (v : Value) :
    Q fun i => a.run position v (c i) := by
  simp only [run_eq_runVisits]
  refine runVisits_compositional hQ fun visit hmem => ?_
  have hstem := visits_stem ha position v visit hmem
  rcases visit with ⟨inspection, w, own, path⟩
  rcases own with _ | provider
  · have hfits : inspection.Fits @Q fun i => path.foldl Step.extend (c i) := by
      cases inspection with
      | node node position => exact IsIntrinsic.fits hstem hconst (hc path) (htest path)
      | keyField field key => trivial
      | crossField key b => trivial
    exact Inspection.run_compositional hQ (hc path) hfits w
  · -- Below an object with its own place nothing depends on the start.
    exact hconst (inspection.run w (path.foldl Step.extend (.root (some provider))))

end

end Assertion

namespace Context

variable {c d : Context}

/-- A step leads from places that look alike to places that look alike. -/
theorem alike_foldl (htext : c.text = d.text) (heval : c.evaluate = d.evaluate)
    (path : List Step) :
    (path.foldl Step.extend c).text = (path.foldl Step.extend d).text ∧
      (path.foldl Step.extend c).evaluate = (path.foldl Step.extend d).evaluate := by
  induction path generalizing c d with
  | nil => exact ⟨htext, heval⟩
  | cons step path ih =>
      have hstep : (step.extend c).text = (step.extend d).text := by
        rw [text_extend, text_extend, htext]
      refine ih hstep ?_
      rw [evaluate_extend, evaluate_extend, hstep]

end Context

namespace Assertion

/-- An intrinsic tree looks at its place through the text of it. -/
theorem run_dependsOnText {a : Assertion} (ha : a.Everywhere IsIntrinsic) (position : Position)
    (v : Value) : Check.DependsOnText fun c => a.run position v c := by
  refine run_family (Q := @Check.DependsOnText) (c := fun c => c) dependsOnText_compositional
    (fun _ _ _ _ _ => rfl) (fun path => ?_) (fun path message v => ?_) ha position v
  · refine ⟨fun write c d htext heval => ?_, fun message v c d htext heval => ?_⟩
    · simp only [(Context.alike_foldl htext heval path).1]
    · exact congrArg (fun error => Check.fail error [])
        (Context.explain_congr (Context.alike_foldl htext heval path).2 message v)
  · intro c d htext heval
    exact congrArg Check.failText
      (testReport_congr (Context.alike_foldl htext heval path).1 message v)

end Assertion

/-- A computation that is given a place ends with the same values at all places. -/
def Check.PassesAlike (factory : ErrorFactory) {α : Type} (x : Context → Check α) : Prop :=
  ∀ c d a, (x c factory).result = .ok a → (x d factory).result = .ok a

theorem passesAlike_compositional (factory : ErrorFactory) :
    Compositional fun {_} x => Check.PassesAlike factory x where
  value _ := fun _ _ _ h => h
  fault _ := fun _ _ _ h => h
  bind hx hf := by
    intro c d b h
    rcases Check.bind_ok_iff.mp h with ⟨a, ha, hb⟩
    exact Check.bind_ok_iff.mpr ⟨a, hx c d a ha, hf a c d b hb⟩

/-- What fails ends with no value anywhere. -/
theorem fail_passesAlike (factory : ErrorFactory) {α : Type} (error : Context → Check Value) :
    Check.PassesAlike factory fun c => (Check.fail (error c) [] : Check α) :=
  fun c _ a h => absurd h (Check.fail_ne_ok (error c) [] factory a)

namespace Assertion

theorem run_passesAlike {a : Assertion} (ha : a.Everywhere IsIntrinsic) (position : Position)
    (v : Value) (factory : ErrorFactory) :
    Check.PassesAlike factory fun c => a.run position v c :=
  run_family (Q := fun {_} x => Check.PassesAlike factory x) (c := fun c => c)
    (passesAlike_compositional factory) (fun _ _ _ _ h => h)
    (fun _ => ⟨fun _ => fail_passesAlike factory _, fun _ _ => fail_passesAlike factory _⟩)
    (fun _ _ _ => fail_passesAlike factory _) ha position v

/-- A value satisfies an assertion that stands at a part of a container. -/
def Satisfies (factory : ErrorFactory) (a : Assertion) (v : Value) : Prop :=
  (a.run .part v (.root none) factory).result = .ok ()

/-- Whether a value satisfies an intrinsic assertion can be found out at every place. -/
theorem satisfies_iff {a : Assertion} (ha : a.Everywhere IsIntrinsic) (v : Value)
    (factory : ErrorFactory) (c : Context) :
    a.Satisfies factory v ↔ (a.run .part v c factory).result = .ok () :=
  ⟨run_passesAlike ha .part v factory _ c (), run_passesAlike ha .part v factory c _ ()⟩

end Assertion

end Attest
