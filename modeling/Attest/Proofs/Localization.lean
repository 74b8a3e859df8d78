import Attest.Factory
import Attest.Proofs.Compositional
import Attest.Proofs.Decision
import Attest.Proofs.Visits

/-!
# Localization

A report names the place of what it reports.

A check looks at its place only through the text of it. It cannot tell a place below some
steps from the start of a run with a longer text, and `visit_run_eq_alone` says so for
the visits of a run. With the decomposition of a run into its visits this gives
`run_error_localized`: a run that fails has a first failing visit, the steps to it lead
to the value it was made on, and what was raised is what this one check raises when it
is made alone on that value, with the text of the start and the steps for a context. A step whose
key cannot be written leaves no such text; then the context is one that raises what is in the
way.

Two things break this off and are left out by `IsLocal`. An object with its own place
starts the text anew, and a function from outside sees the context itself and not its
text alone.

## Main definitions

* `Check.DependsOnText`: A computation looks at its place through the text of it.
* `Assertion.IsLocal`: A node whose check looks at its place through the text alone.
* `Provider.ofText`: A text as a provider, or what is in the way of it.
* `Visit.alone`: A visit, made on its own.

## Theorems

* `IsLocal.fits`: What a local node calls has a property, if its predicate and identity do.
* `visits_stem_local`: The visits of a local tree start where the run starts.
* `visit_run_eq_alone`: A visit of a local tree cannot tell its place from a text.
* `run_error_localized`: The report of a failing run is that of its first failing check.
-/

namespace Attest

/-- A computation looks at its place through the text of it, and through what the place gives
    as a provider. -/
def Check.DependsOnText {α : Type} (x : Context → Check α) : Prop :=
  ∀ c d : Context, c.text = d.text → c.evaluate = d.evaluate → x c = x d

theorem dependsOnText_compositional : Compositional @Check.DependsOnText where
  value _ := fun _ _ _ _ => rfl
  fault _ := fun _ _ _ _ => rfl
  bind hx hf := by
    intro c d htext heval
    simp only [hx c d htext heval, fun a => hf a c d htext heval]

theorem dependsOnText_reporting : Reporting @Check.DependsOnText fun c => c where
  text write := by
    intro c d htext _
    simp only [htext]
  explain message v := by
    intro c d _ heval
    exact congrArg (fun error => Check.fail error []) (Context.explain_congr heval message v)

namespace Assertion

/-- A node whose check looks at its place through the text alone, in a tree without cross-field
    entries. -/
def IsLocal : Assertion → Prop
  | schema _ fields => ∀ field ∈ fields, isCrossField field.1 = .ok false
  | object _ own _ => own = none
  | record _ _ _ crossField => crossField = none
  | callable _ | value _ => False
  | _ => True

/-- What a local node calls has a property of the failures at its place, if its predicate with the
    report of it and its identity do. -/
theorem IsLocal.fits {ι : Type} {Q : ∀ {α : Type}, (ι → Check α) → Prop} {c : ι → Context}
    {a : Assertion} (ha : a.IsLocal) (hc : Reporting @Q c)
    (htest : ∀ predicate message, a = test predicate message → ∀ v, (Q fun _ => predicate v) ∧
      Q fun i => (Check.failText (testReport message v (c i)) : Check Unit))
    (hidentity : ∀ element rules identity, a = array element rules →
      rules.identity = some identity → ∀ v, Q fun _ => identity v) : a.Fits @Q c := by
  cases a with
  | test predicate message => exact htest predicate message rfl
  | object inner own rules =>
      have hown : own = none := ha
      subst hown
      exact hc
  | array element rules => exact fun identity h => hidentity element rules identity rfl h
  | callable f => exact absurd ha id
  | value w => exact absurd ha id
  | _ => trivial

theorem IsLocal.fits_dependsOnText {a : Assertion} (ha : a.IsLocal) :
    a.Fits @Check.DependsOnText fun c => c := by
  refine ha.fits dependsOnText_reporting (fun _ message _ v => ⟨fun _ _ _ _ => rfl, ?_⟩)
    fun _ _ _ _ _ _ _ _ _ _ => rfl
  intro c d htext _
  exact congrArg Check.failText (testReport_congr htext message v)

/-- In a local tree every visit starts where the run starts, and is made for a node of the tree
    or for a key. -/
theorem visits_stem_local {a : Assertion} (ha : a.Everywhere IsLocal) (position : Position)
    (v : Value) : ∀ visit ∈ a.visits position v, visit.place.own = none ∧
      ((∃ node position, node.IsLocal ∧ visit.inspection = .node node position) ∨
        ∃ field key, visit.inspection = .keyField field key) := by
  intro visit hmem
  have hstem := visits_stem ha position v visit hmem
  refine ⟨?_, ?_⟩
  · rcases hown : visit.place.own with _ | provider
    · rfl
    · -- Its place would be the own one of an object, which a local tree does not have.
      rcases visits_own ha position v visit hmem provider hown with ⟨inner, rules, hobject⟩
      have hnone : some provider = none := hobject
      exact absurd hnone (by simp only [reduceCtorEq, not_false_eq_true])
  · rcases hinspection : visit.inspection with ⟨node, position⟩ | ⟨field, key⟩ | ⟨key, b⟩
    · rw [hinspection] at hstem
      exact Or.inl ⟨node, position, hstem, rfl⟩
    · exact Or.inr ⟨field, key, rfl⟩
    · rw [hinspection] at hstem
      rcases hstem with ⟨hkey, form, fields, hschema, hfield⟩
      exact absurd (hschema (key, b) hfield) hkey

end Assertion

/-- A text as a provider. If it cannot be had, the provider raises what is in the way. -/
def Provider.ofText : Except Fault String → Provider
  | .ok s => .text s
  | .error f => .deferred (Check.raise (.fault f))

theorem Provider.evaluate_ofText (x : Except Fault String) :
    Provider.evaluate (some (ofText x)) = Check.ofExcept (x >>= fun s => pure (.text s)) := by
  cases x <;> rfl

theorem Provider.message_ofText (x : Except Fault String) :
    Provider.message (some (ofText x)) = Check.ofExcept x := by
  cases x <;> rfl

/-- A place and a start with the same text give the same, as there is no exception that could be
    seen at the start only. -/
theorem Context.alike_ofText (start : String) (path : List Step) :
    (path.foldl Step.extend (.root (some (.text start)))).text =
        (Context.root (some (.ofText do return start ++ (← pathText path)))).text ∧
      (path.foldl Step.extend (.root (some (.text start)))).evaluate =
        (Context.root (some (.ofText do return start ++ (← pathText path)))).evaluate := by
  constructor
  · rw [Context.text_along, Context.text, Provider.message_ofText]
    rfl
  · rw [Context.evaluate_along, Context.evaluate, Provider.evaluate_ofText]
    cases path with
    | nil =>
        have hempty : (do return start ++ (← pathText []) : Except Fault String) = .ok start :=
          congrArg Except.ok String.append_empty
        rw [hempty]
        rfl
    | cons step path => rfl

/-- A visit, made on its own: at the start of a run whose context is a text followed by the
    steps to the visit. -/
def Visit.alone (visit : Visit) (start : String) : Check Unit :=
  visit.inspection.run visit.value
    (.root (some (.ofText do return start ++ (← pathText visit.place.path))))

namespace Assertion

/-- A visit of a local tree cannot tell where it stands from a text. -/
theorem visit_run_eq_alone {a : Assertion} (ha : a.Everywhere IsLocal) {position : Position}
    {v : Value} {visit : Visit} (hmem : visit ∈ a.visits position v) (start : String) :
    visit.run (.root (some (.text start))) = visit.alone start := by
  rcases visits_stem_local ha position v visit hmem with ⟨hown, hinspection⟩
  rcases visit with ⟨inspection, w, own, path⟩
  simp only at hown hinspection
  subst hown
  rcases Context.alike_ofText start path with ⟨htext, heval⟩
  have hfits : inspection.Fits @Check.DependsOnText fun c => c := by
    rcases hinspection with ⟨node, position, hnode, rfl⟩ | ⟨field, key, rfl⟩
    · exact hnode.fits_dependsOnText
    · trivial
  exact Inspection.run_compositional dependsOnText_compositional dependsOnText_reporting hfits w
    _ _ htext heval

/-- The report of a failing run is that of its first failing check. The visits in front pass,
    the steps to it lead to the value that it is made on, and made alone on that value, with
    the text of the start and the steps for a context, it raises what the run raised. The steps can
    be written if the keys on the way can. -/
theorem run_error_localized {a : Assertion} (ha : a.Everywhere IsLocal) (position : Position)
    (v : Value) (start : String) (factory : ErrorFactory) (raised : Raised)
    (hfail : (a.run position v (.root (some (.text start))) factory).result = .error raised) :
    ∃ before visit after, a.visits position v = before ++ visit :: after ∧
      (∀ earlier ∈ before, (earlier.alone start factory).result = .ok ()) ∧
      Leads v visit.place.path visit.value ∧
      Written (∀ step ∈ visit.place.path, step.IsWritable) (pathText visit.place.path) ∧
      (visit.alone start factory).result = .error raised := by
  rw [run_eq_runVisits] at hfail
  rcases runVisits_cases (a.visits position v) (.root (some (.text start))) factory with
    ⟨_, hrun⟩ | ⟨before, visit, after, raised', hvisits, hbefore, hvisit, hrun⟩
  · rw [hrun] at hfail
    exact absurd hfail (by simp only [reduceCtorEq, not_false_eq_true])
  · rw [hrun] at hfail
    have hraised : raised' = raised := Except.error.inj hfail
    subst hraised
    have hmem : ∀ earlier ∈ before ++ [visit], earlier ∈ a.visits position v := by
      intro earlier hearlier
      rw [hvisits, List.append_cons]
      exact List.mem_append_left after hearlier
    have hlast : visit ∈ a.visits position v :=
      hmem visit (List.mem_append_right _ (List.mem_singleton_self _))
    refine ⟨before, visit, after, hvisits, fun earlier hearlier => ?_, ?_, pathText_written _, ?_⟩
    · rw [← visit_run_eq_alone ha (hmem earlier (List.mem_append_left _ hearlier))]
      exact hbefore earlier hearlier
    · exact visits_lead ha position v visit hlast
        (visits_stem_local ha position v visit hlast).1
    · rw [← visit_run_eq_alone ha hlast]
      exact hvisit

theorem speaks_text (factory : ErrorFactory) (start : String) :
    (Context.root (some (.text start))).Speaks factory True :=
  Context.Answers.speaks ⟨.text start, rfl, fun _ _ _ => by
    simp only [ne_eq, reduceCtorEq, not_false_eq_true]⟩ fun _ v hv => Except.ok.inj hv ▸ trivial

/-- Below a key that cannot be written, a check that reports raises what is in the way. -/
theorem primitive_run_unwritten {p : Primitive} {v key : Value} (hp : ¬p.holds v = true)
    {c : Context} (hc : c.text = pure "") {f : Fault} (hkey : key.plain = .error f) :
    p.run v (.entry c key) = Check.raise (.fault f) := by
  have htext : (Context.entry c key).text = Check.raise (.fault f) := by
    simp only [Context.text, hc, hkey, Check.ofExcept_error, pure_bind, Check.raise_bind]
  have hplace : (Context.entry c key).evaluate = Check.raise (.fault f) := by
    rw [Context.evaluate, htext, Check.raise_bind]
    intro provider hroot
    exact absurd hroot (by simp only [reduceCtorEq, not_false_eq_true])
  rw [Primitive.run, if_neg hp, Context.explain, hplace]
  rfl

/-- Below a key of too many digits there is no text to put in front of a report, so a run does not
    raise what the check raises behind any text. -/
theorem overlong_key_unlocalized :
    ¬∃ start : String, ((record (primitive .string) none none none).run .called
        (.dict (.given 0) [(.overlong, .int 1)]) (.root (some (.text ""))) .standard).result =
      ((primitive .string).run .called (.int 1) (.root (some (.text start))) .standard).result := by
  rintro ⟨start, hsame⟩
  have hrun : (record (primitive .string) none none none).run .called
      (.dict (.given 0) [(.overlong, .int 1)]) (.root (some (.text ""))) =
        Check.raise (.fault .integerTooLong) := by
    have hentry : (primitive .string).run .part (.int 1)
        (.entry (.root (some (.text ""))) .overlong) = Check.raise (.fault .integerTooLong) := by
      rw [run]
      exact primitive_run_unwritten (by decide) rfl Value.plain_overlong
    rw [run, recordEntries_of_mapping rfl, pure_bind, runEntries_cons, hentry]
    rfl
  -- The check reports behind every text, and what it raises is no fault.
  rcases Context.explain_refuses (H := True) (α := Unit)
    (fun _ => speaks_text .standard start) "Not a string" (v := .int 1)
      (fun _ => Value.isWritable_digit (by decide)) with ⟨raised, hraised, hbuilt⟩
  rcases hbuilt trivial with ⟨message, rfl⟩ | ⟨hno, -⟩
  · have halone : ((primitive .string).run .called (.int 1) (.root (some (.text start)))
        .standard).result = .error (ErrorFactory.standard message []) := by
      rw [run]
      exact hraised
    rw [hrun, halone, Check.raise, Except.error.injEq] at hsame
    exact absurd hsame (by simp only [ErrorFactory.standard, reduceCtorEq, not_false_eq_true])
  · exact hno trivial

/-- A record of objects, each of which may be missing and holds an array of booleans. -/
def flagRecord : Assertion :=
  record (valueOr .null (object (schema .dict [(.text "flags",
    array (primitive .boolean) .lenient)]) none .lenient)) (some (primitive .string)) none none

/-- A record whose second item holds something in its second place that is no boolean. -/
def brokenFlags : Value :=
  .dict (.given 0) [(.text "a", .null), (.text "b", .dict (.given 1)
    [(.text "flags", .list (.given 2) [.bool true, .null])])]

theorem flagRecord_isLocal : flagRecord.Everywhere IsLocal := by
  refine ⟨rfl, ⟨trivial, rfl, ?_, ⟨trivial, trivial⟩, trivial⟩, trivial, trivial⟩
  intro field hfield
  rw [List.mem_singleton.mp hfield]
  rfl

theorem run_error_localized_flagRecord :
    (flagRecord.run .called brokenFlags (.root (some (.text "in"))) .standard).result =
        .error (.built .schemaError [.text "in['b'].flags[1]: Not a boolean <null>"]) ∧
      ∃ before visit after, flagRecord.visits .called brokenFlags = before ++ visit :: after ∧
        (∀ earlier ∈ before, (earlier.alone "in" .standard).result = .ok ()) ∧
        Leads brokenFlags visit.place.path visit.value ∧
        Written (∀ step ∈ visit.place.path, step.IsWritable) (pathText visit.place.path) ∧
        (visit.alone "in" .standard).result =
          .error (.built .schemaError [.text "in['b'].flags[1]: Not a boolean <null>"]) :=
  ⟨rfl, run_error_localized flagRecord_isLocal .called brokenFlags "in" .standard _ rfl⟩

end Assertion

end Attest
