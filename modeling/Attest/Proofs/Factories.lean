import Attest.Factory
import Attest.Proofs.Compositional
import Attest.Proofs.Visits

/-!
# Choice of Factory

What changes in a run when the factory does, and what does not.

A factory is asked for something to raise when a check fails, and the run must not use it
for anything else: no step may go on after a failure, look at what was built, or build an
error on its own. `run_under_factory` compares the runs under two factories. The calls are
the same in both, and so is how they end, up to what is built from the message of the
failure. It holds for all trees, with cross-field entries and functions from outside.

What comes from outside may be arbitrary, so it has to leave the choice of the factory
alone too. `Plain` says how it can: it computes without the factory, fails with a message,
and does one such thing after another. A check that catches an error and looks at its kind
is not plain. Plain computations are uniform, which is shown by induction on how they are
put together, and the checks of a run are plain as their parts are.

## Main definitions

* `Raised.IsForeign`: Something was not built by a factory.
* `Ending`: How a computation ends, said without a factory.
* `Check.Plain`: A computation that leaves the choice of the factory alone.
* `Check.IsUniform`: A computation ends in the same way under every factory.
* `Context.IsPlain`, `Callable.IsPlain`: The same for places and for functions from outside.
* `Assertion.CallsPlain`: What a node of a tree calls leaves the choice of the factory alone.
* `ErrorFactory.IsDefective`: A factory that cannot be used as one.

## Theorems

* `Plain.isUniform`: A plain computation is uniform.
* `callable_run_plain`: Functions from outside, called in any position.
* `run_plain`: A run is plain if what it calls is.
* `toFactory_isDefective`: Labelled factories that are defective.
* `run_under_factory`: Two factories, and one run under each.
-/

namespace Attest

/-- Something was not built by a factory: it came in from outside, or is a fault. -/
def Raised.IsForeign : Raised → Prop
  | .built .. => False
  | _ => True

/-- How a computation ends, said without a factory. -/
inductive Ending (α : Type) where
  /-- It gives a value. -/
  | returned (a : α)
  /-- It raises something that no factory built. -/
  | raised (r : Raised) (foreign : r.IsForeign)
  /-- It fails with a message, from which a factory is to build something. -/
  | failed (message : Value)

/-- The result that an ending is under a factory. -/
def Ending.under {α : Type} (factory : ErrorFactory) : Ending α → Except Raised α
  | returned a => .ok a
  | raised r _ => .error r
  | failed message => .error (factory message [])

namespace Check

/-- A computation that leaves the choice of the factory alone. It is put together from what does
    not depend on a factory and raises nothing that one has built, and from failures with a
    message and no further values. -/
inductive Plain : {α : Type} → Check α → Prop where
  /-- It gives a value, or raises something that no factory built. -/
  | steady {α : Type} {x : Check α} (trace : List Event) (result : Except Raised α)
      (foreign : ∀ r, result = .error r → r.IsForeign)
      (h : ∀ factory, x factory = ⟨trace, result⟩) : Plain x
  /-- It fails with a message. -/
  | fail {α : Type} {error : Check Value} (h : Plain error) : Plain (fail error [] : Check α)
  /-- One such computation and then another. -/
  | bind {α β : Type} {x : Check α} {f : α → Check β} (hx : Plain x) (hf : ∀ a, Plain (f a)) :
      Plain (x >>= f)

/-- A computation makes the same calls under every factory and ends in the same way. -/
def IsUniform {α : Type} (x : Check α) : Prop :=
  ∃ trace ending, ∀ factory, x factory = ⟨trace, Ending.under factory ending⟩

variable {α β : Type}

theorem plain_pure (a : α) : Plain (pure a) :=
  Plain.steady [] (.ok a) (fun _ h => absurd h (by simp only [reduceCtorEq, not_false_eq_true]))
    fun _ => rfl

theorem plain_raise {r : Raised} (hr : r.IsForeign) : Plain (raise r : Check α) :=
  Plain.steady [] (.error r) (fun _ h => Except.error.inj h ▸ hr) fun _ => rfl

theorem plain_record (event : Event) : Plain (record event) :=
  Plain.steady [event] (.ok ()) (fun _ h => absurd h (by simp only [reduceCtorEq,
    not_false_eq_true])) fun _ => rfl

theorem plain_ofExcept (x : Except Fault α) : Plain (ofExcept x) := by
  rcases x with f | a
  · exact plain_raise trivial
  · exact plain_pure a

/-- What is done with a value afterwards does not ask the factory. -/
theorem plain_map {x : Check α} (hx : Plain x) (f : α → β) : Plain (x >>= fun a => pure (f a)) :=
  Plain.bind hx fun a => plain_pure (f a)

theorem plain_failText {message : Check String} (h : Plain message) :
    Plain (failText message : Check α) :=
  Plain.fail (Plain.bind h fun s => plain_pure (Value.text s))

theorem IsUniform.bind {x : Check α} {f : α → Check β} (hx : x.IsUniform)
    (hf : ∀ a, (f a).IsUniform) : (x >>= f).IsUniform := by
  rcases hx with ⟨trace, a | ⟨r, foreign⟩ | message, hx⟩
  · -- The value is the same under every factory, and so is what follows it.
    rcases hf a with ⟨rest, ending, hrest⟩
    refine ⟨trace ++ rest, ending, fun factory => ?_⟩
    rw [bind_apply_ok (hx factory), hrest factory]
  · exact ⟨trace, .raised r foreign, fun factory => bind_apply_error (hx factory) f⟩
  · exact ⟨trace, .failed message, fun factory => bind_apply_error (hx factory) f⟩

/-- To fail is to raise an exception that was given, or to hand a message to the factory. -/
theorem isUniform_fail {error : Check Value} (h : error.IsUniform) :
    (fail error [] : Check α).IsUniform := by
  refine IsUniform.bind h fun v => ?_
  by_cases hv : ∃ id kind arguments, v = .exception id kind arguments
  · rcases hv with ⟨id, kind, arguments, rfl⟩
    exact ⟨[], .raised (.given id kind arguments) trivial, fun _ => rfl⟩
  · refine ⟨[], .failed (if v.isTruthy then v else defaultMessage), fun _ => ?_⟩
    cases v with
    | exception id kind arguments => exact absurd ⟨id, kind, arguments, rfl⟩ hv
    | _ => rfl

theorem Plain.isUniform {x : Check α} (h : Plain x) : x.IsUniform := by
  induction h with
  | steady trace result foreign h =>
      rcases result with r | a
      · exact ⟨trace, .raised r (foreign r rfl), h⟩
      · exact ⟨trace, .returned a, h⟩
  | fail _ ih => exact isUniform_fail ih
  | bind _ _ ihx ihf => exact ihx.bind ihf

end Check

/-- A provider leaves the choice of the factory alone. -/
def Provider.IsPlain (provider : Option Provider) : Prop :=
  (Provider.evaluate provider).Plain

namespace Context

/-- A place whose text, and what it gives as a provider, leave the choice of the factory alone. -/
def IsPlain (c : Context) : Prop :=
  c.text.Plain ∧ c.evaluate.Plain

theorem isPlain_root {provider : Option Provider} (h : Provider.IsPlain provider) :
    (root provider).IsPlain :=
  ⟨Check.Plain.bind h fun _ => Check.plain_ofExcept _, h⟩

theorem IsPlain.extend {c : Context} (h : c.IsPlain) (step : Step) : (step.extend c).IsPlain := by
  have htext : (step.extend c).text.Plain := by
    rw [text_extend]
    exact Check.Plain.bind h.1 fun _ => Check.plain_map (Check.plain_ofExcept _) _
  refine ⟨htext, ?_⟩
  rw [evaluate_extend]
  exact Check.Plain.bind htext fun _ => Check.plain_pure _

theorem IsPlain.along {c : Context} (h : c.IsPlain) (path : List Step) :
    (path.foldl Step.extend c).IsPlain := by
  induction path generalizing c with
  | nil => exact h
  | cons step path ih => exact ih (h.extend step)

end Context

/-- Computations that leave the choice of the factory alone, as a family with one member. -/
def AllPlain {α : Type} (x : Unit → Check α) : Prop :=
  (x ()).Plain

theorem allPlain_compositional : Compositional @AllPlain where
  value a := Check.plain_pure a
  fault _ := Check.plain_raise trivial
  bind hx hf := Check.Plain.bind hx hf

theorem allPlain_reporting {c : Context} (hc : c.IsPlain) : Reporting @AllPlain fun _ => c where
  text _ := Check.plain_failText (Check.Plain.bind hc.1 fun _ => Check.plain_ofExcept _)
  explain message v := by
    refine Check.Plain.fail (Check.Plain.bind hc.2 fun place => ?_)
    cases place with
    | exception id kind arguments => exact Check.plain_raise trivial
    | _ => exact Check.plain_map (Check.plain_ofExcept _) _

/-- A function from outside leaves the choice of the factory alone, if its context does. -/
structure Callable.IsPlain (f : Callable) : Prop where
  /-- It does when called with a value. -/
  withValue : ∀ v, (f.call v none).Plain
  /-- It does when called with a value and a context. -/
  withContext : ∀ v c, c.IsPlain → (f.call v (some c)).Plain

namespace Assertion

theorem callable_run_plain {f : Callable} (hf : f.IsPlain) {c : Context} (hc : c.IsPlain)
    (position : Position) (v : Value) : (f.run position v c).Plain := by
  have hvalue : (f.callWithValue v).Plain := by
    unfold Callable.callWithValue
    by_cases htakes : f.signature.takes 1 = true
    · rw [if_pos htakes]
      exact hf.withValue v
    · rw [if_neg htakes]
      exact Check.plain_raise trivial
  have hcontext : (f.callWithContext v c).Plain := by
    unfold Callable.callWithContext
    by_cases htakes : f.signature.takes 2 = true
    · rw [if_pos htakes]
      exact hf.withContext v c hc
    · rw [if_neg htakes]
      exact Check.plain_raise trivial
  have hassertion : (f.callAsAssertion v c).Plain := by
    unfold Callable.callAsAssertion
    by_cases htakes : f.signature.takes 2 = true
    · rw [if_pos htakes]
      exact hcontext
    · rw [if_neg htakes]
      exact hvalue
  have hrefuse : ∀ w, (Callable.refuseResult w).Plain := by
    intro w
    unfold Callable.refuseResult
    split
    · exact Check.plain_pure ()
    · exact Check.plain_failText (Check.plain_ofExcept _)
  cases position with
  | direct => exact Check.Plain.bind hcontext fun _ => Check.plain_pure ()
  | _ => exact Check.Plain.bind hassertion hrefuse

/-- A value that can be called is a function that leaves the choice of the factory alone. -/
theorem asCallable?_isPlain {w : Value} {f : Callable} (h : w.asCallable? = some f) :
    f.IsPlain := by
  cases w with
  | function id name =>
      rw [← Option.some.inj h]
      exact ⟨fun _ => Check.plain_pure _, fun _ _ _ => Check.plain_pure _⟩
  | callable id description =>
      rw [← Option.some.inj h]
      exact ⟨fun _ => Check.plain_pure _, fun _ _ _ => Check.plain_pure _⟩
  | builtin c =>
      rw [← Option.some.inj h]
      exact ⟨fun _ => Check.plain_ofExcept _, fun _ _ _ => Check.plain_ofExcept _⟩
  | applied c arguments =>
      rw [← Option.some.inj h]
      exact ⟨fun _ => Check.plain_ofExcept _, fun _ _ _ => Check.plain_ofExcept _⟩
  | _ => exact absurd h (by simp only [Value.asCallable?, reduceCtorEq, not_false_eq_true])

/-- What a node of a tree calls leaves the choice of the factory alone. -/
def CallsPlain : Assertion → Prop
  | test predicate message => (∀ v, (predicate v).Plain) ∧ Provider.IsPlain message
  | object _ (some own) _ => Provider.IsPlain (some own)
  | array _ rules => ∀ identity, rules.identity = some identity → ∀ v, (identity v).Plain
  | callable f => f.IsPlain
  | _ => True

theorem CallsPlain.placeOf {inner : Assertion} {own : Option Provider} {rules : ObjectRules}
    (h : (object inner own rules).CallsPlain) {c : Context} (hc : c.IsPlain) :
    (placeOf own c).IsPlain := by
  rcases own with _ | provider
  · exact hc
  · exact Context.isPlain_root h

theorem CallsPlain.fits {a : Assertion} (ha : a.CallsPlain) {c : Context} (hc : c.IsPlain) :
    a.Fits @AllPlain fun _ => c := by
  cases a with
  | test predicate message =>
      refine fun v => ⟨ha.1 v, Check.plain_failText (Check.Plain.bind hc.1 fun place => ?_)⟩
      have hmessage : (Provider.message message).Plain :=
        Check.Plain.bind ha.2 fun _ => Check.plain_ofExcept _
      refine Check.Plain.bind hmessage fun text => ?_
      by_cases hempty : text = ""
      · simp only [if_pos hempty]
        exact Check.plain_map (Check.plain_ofExcept _) _
      · simp only [if_neg hempty]
        exact Check.plain_pure _
  | object inner own rules => exact allPlain_reporting (ha.placeOf hc)
  | array element rules => exact ha
  | callable f => exact callable_run_plain ha hc
  | value w => exact fun f hf => callable_run_plain (asCallable?_isPlain hf) hc
  | _ => trivial

/-- A run leaves the choice of the factory alone, if everything that it calls does. -/
theorem run_plain {a : Assertion} (ha : a.Everywhere CallsPlain) (position : Position) (v : Value)
    {c : Context} (hc : c.IsPlain) : (a.run position v c).Plain := by
  rw [run_eq_runVisits]
  refine runVisits_compositional allPlain_compositional (c := fun _ => c) fun visit hmem => ?_
  -- The visit stands below the start of the run or below the own place of an object.
  have hplace : (visit.place.contextFrom c).IsPlain := by
    refine Context.IsPlain.along ?_ visit.place.path
    rcases hown : visit.place.own with _ | provider
    · exact hc
    · rcases visits_own ha position v visit hmem provider hown with ⟨inner, rules, hobject⟩
      exact CallsPlain.placeOf hobject hc
  have hfits : visit.inspection.Fits @AllPlain fun _ => visit.place.contextFrom c := by
    have hstem := visits_stem ha position v visit hmem
    rcases hinspection : visit.inspection with ⟨node, position⟩ | ⟨field, key⟩ | ⟨key, b⟩
    · rw [hinspection] at hstem
      exact CallsPlain.fits hstem hplace
    · trivial
    · trivial
  exact Inspection.run_compositional allPlain_compositional (allPlain_reporting hplace) hfits
    visit.value

end Assertion

/-- A factory that cannot be used as one: it refuses a message without further values, or what it
    gives for one cannot be raised. Either is an error of its type. -/
def ErrorFactory.IsDefective (factory : ErrorFactory) : Prop :=
  ∀ message, ∃ f : Fault, factory message [] = .fault f ∧ f.kind = .typeError

/-- A labelled factory that insists on further values, or builds no exception, is defective. -/
theorem LabelledFactory.toFactory_isDefective {settings : LabelledFactory}
    (h : settings.takes 0 = false ∨ settings.kind = none) : settings.toFactory.IsDefective := by
  intro message
  unfold toFactory
  by_cases htakes : settings.takes ([] : List Value).length = true
  · rw [if_pos htakes]
    rcases h with hnot | hkind
    · exact absurd htakes (Bool.eq_false_iff.mp hnot)
    · rw [hkind]
      exact ⟨.notException, rfl, rfl⟩
  · rw [if_neg htakes]
    exact ⟨.wrongArguments, rfl, rfl⟩

namespace Assertion

/-- The factory is asked about failures and about nothing else. A run makes the same calls under
    every factory. It passes under one if it passes under another, what no factory built is raised
    as it is, and where the standard factory builds a schema error from a message, another one is
    given that message and no further values. -/
theorem run_under_factory {a : Assertion} (ha : a.Everywhere CallsPlain) (position : Position)
    (v : Value) {c : Context} (hc : c.IsPlain) (factory : ErrorFactory) :
    (a.run position v c factory).trace = (a.run position v c .standard).trace ∧
      match (a.run position v c .standard).result with
      | .ok () => (a.run position v c factory).result = .ok ()
      | .error (.built kind arguments) => kind = .schemaError ∧ ∃ message, arguments = [message] ∧
          (a.run position v c factory).result = .error (factory message []) ∧
          (factory.IsDefective → ∃ f : Fault, f.kind = .typeError ∧
            (a.run position v c factory).result = .error (.fault f))
      | .error raised => (a.run position v c factory).result = .error raised := by
  rcases (run_plain ha position v hc).isUniform with ⟨trace, ending, hrun⟩
  rw [hrun factory, hrun .standard]
  refine ⟨rfl, ?_⟩
  rcases ending with _ | ⟨r, foreign⟩ | message
  · rfl
  · cases r with
    | built kind arguments => exact absurd foreign id
    | given id kind arguments => rfl
    | fault f => rfl
  · refine ⟨rfl, message, rfl, rfl, fun hdefective => ?_⟩
    rcases hdefective message with ⟨f, hf, hkind⟩
    exact ⟨f, hkind, congrArg Except.error hf⟩

/-- A function that leaves a call behind and fails. -/
def refusal : Callable :=
  ⟨.unnamed, .assertion, fun v _ => Check.record (.called "refusal" v none) >>= fun _ =>
    Check.assertTruthy (.bool false) (pure (.text "refused")) [] >>= fun _ => pure .null⟩

/-- An object with a number, whose cross-field entry refuses every value. -/
def guarded : Assertion :=
  object (schema .dict [(.text "n", primitive .number), (.text "$o", callable refusal)]) none
    .lenient

/-- A value that only the cross-field entry of the object refuses. -/
def numbered : Value :=
  .dict (.given 0) [(.text "n", .int 1)]

theorem refusal_isPlain : refusal.IsPlain := by
  have hcall : ∀ v c, (refusal.call v c).Plain := fun v _ =>
    Check.Plain.bind (Check.plain_record (.called "refusal" v none)) fun _ =>
      Check.Plain.bind (Check.Plain.fail (Check.plain_pure _)) fun _ => Check.plain_pure _
  exact ⟨fun v => hcall v none, fun v c _ => hcall v (some c)⟩

theorem guarded_callsPlain : guarded.Everywhere CallsPlain :=
  ⟨trivial, trivial, trivial, refusal_isPlain, trivial⟩

theorem run_under_factory_guarded :
    (guarded.run .called numbered (.root none)
        (LabelledFactory.mk (some .valueError) "no: " none).toFactory).result =
          .error (.built .valueError [.text "no: refused"]) ∧
      ∃ f : Fault, f.kind = .typeError ∧ (guarded.run .called numbered (.root none)
        (LabelledFactory.mk none "" none).toFactory).result = .error (.fault f) := by
  have hroot : (Context.root none).IsPlain := Context.isPlain_root (Check.plain_pure _)
  have hlabelled := (run_under_factory guarded_callsPlain .called numbered hroot
    (LabelledFactory.mk (some .valueError) "no: " none).toFactory).2
  have hdefective := (run_under_factory guarded_callsPlain .called numbered hroot
    (LabelledFactory.mk none "" none).toFactory).2
  have hstandard : (guarded.run .called numbered (.root none) .standard).result =
      .error (.built .schemaError [.text "refused"]) := rfl
  rw [hstandard] at hlabelled hdefective
  rcases hlabelled with ⟨_, message, hmessage, hraised, _⟩
  rcases hdefective with ⟨_, _, _, _, hfault⟩
  rw [← List.singleton_inj.mp hmessage] at hraised
  exact ⟨hraised, hfault (LabelledFactory.toFactory_isDefective (Or.inr rfl))⟩

end Assertion

end Attest
