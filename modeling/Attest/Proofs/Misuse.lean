import Attest.Assert
import Attest.Factory
import Attest.Proofs.Traversal
import Attest.Proofs.Writing

/-!
# Mistakes in the Tree

What a run makes of a tree that is not made of assertions.

A tree may hold a predicate where an assertion belongs, or a plain value that is nothing of the
kind. Neither is noticed before a run comes there, which `ComesTo` puts in terms of visits:
whatever stands in front passes. The run then ends with what the visit raises, so it is enough to
look at one visit to know what the whole run reports, at any depth.

Where the parts of a container and the elements of a table are checked, both mistakes end at the
error factory. Elsewhere they do not. What is called directly, to close an object or a record, may
answer what it likes: nothing of the answer is left in what the run ends with. And a plain value
that is met behind an accepted one, or that is to close a record, is called like a function, so
that the fault of the call is raised in place of a report.

## Main definitions

* `Context.refusal`: What is raised for a failure at a place.
* `Callable.invoke`: The call of a function in a position.
* `Callable.objection`: What is raised for a value that an assertion returned.
* `Assertion.ComesTo`: A run comes to a visit.
* `Assertion.invoked?`: The function that is called at a node.

## Theorems

* `failBehind_raises`: A failure at a place raises the refusal.
* `run_eq_invoke`: What is made of an answer depends on the position.
* `result_of_comesTo`, `run_raises_of_comesTo`: A run that comes to a visit ends with it, or
  goes on behind it.
* `run_refuses_answer`: What a returned value leads to.
* `closing_answer_ignored`: A value that is returned and ignored.
* `run_meets_nonassertion`: What a plain value in the place of an assertion leads to.
* `nonassertion_called`: A plain value that is called.
-/

namespace Attest

namespace Context

/-- What is raised for a failure whose message follows the text of a place: what the factory makes
    of both, or what the text of the place raises, or the fault of writing the message. -/
def refusal (c : Context) (message : Except Fault String) (factory : ErrorFactory) : Raised :=
  match (c.text factory).result, message with
  | .ok place, .ok message => factory (.text (place ++ message)) []
  | .ok _, .error f => .fault f
  | .error raised, _ => raised

theorem failBehind_raises {α : Type} (c : Context) {message : Except Fault String}
    (h : message ≠ .ok "") (factory : ErrorFactory) :
    ((c.failBehind message : Check α) factory).result = .error (c.refusal message factory) := by
  have hne : ∀ s, ((do return (← c.text) ++ (← Check.ofExcept message) : Check String)
      factory).result = .ok s → s ≠ "" := by
    intro s hs hempty
    rcases Check.bind_ok_iff.mp hs with ⟨place, _, hplace⟩
    rcases Check.bind_ok_iff.mp hplace with ⟨m, hm, htext⟩
    rw [hempty] at htext
    rw [Check.ofExcept_ok_iff] at hm
    exact h (hm.trans (congrArg _ (String.append_eq_empty_iff.mp (Except.ok.inj htext)).2))
  unfold failBehind refusal
  rw [Check.failText_raises hne, Check.result_bind]
  rcases (c.text factory).result with raised | place
  · rfl
  · cases message <;> rfl

end Context

theorem Value.asCallable?_eq_none {w : Value} (h : w.isCallable = false) :
    w.asCallable? = none := by
  cases w with
  | function | callable | builtin | applied =>
      exact absurd h (by simp only [isCallable, Bool.true_eq_false, not_false_eq_true])
  | _ => rfl

namespace Callable

/-- The call of a function in a position, and what it answers. -/
def invoke (f : Callable) (position : Position) (v : Value) (c : Context) : Check Value :=
  match position with
  | .direct => f.callWithContext v c
  | _ => f.callAsAssertion v c

/-- What is raised for a value that an assertion returned. -/
def objection (answer : Value) (factory : ErrorFactory) : Raised :=
  .ofReport factory (resultComplaint answer)

/-- A returned value that can be written is quoted in the complaint. -/
theorem objection_of_isWritable {answer : Value} (h : answer.IsWritable) (factory : ErrorFactory) :
    ∃ s, answer.quoted = .ok s ∧ objection answer factory = factory (.text
      ("Assertion function must assert (return None) but it returns a value: " ++ s ++
        ". Wrap with from_check()?")) [] := by
  rcases (Value.quoted_written id).exists_ok h with ⟨s, hs⟩
  refine ⟨s, hs, ?_⟩
  have hcomplaint : resultComplaint answer = .ok
      ("Assertion function must assert (return None) but it returns a value: " ++ s ++
        ". Wrap with from_check()?") := by
    rw [resultComplaint, hs]
    rfl
  rw [objection, hcomplaint, Raised.ofReport]

/-- One that cannot be written leaves the fault of writing it. -/
theorem objection_of_quoted_error {answer : Value} {f : Fault} (h : answer.quoted = .error f)
    (factory : ErrorFactory) : objection answer factory = .fault f := by
  have hcomplaint : resultComplaint answer = .error f := by
    rw [resultComplaint, h]
    rfl
  rw [objection, hcomplaint, Raised.ofReport]

theorem run_eq_invoke (f : Callable) (position : Position) (v : Value) (c : Context) :
    f.run position v c = (f.invoke position v c >>= fun answer =>
      if position = .direct then pure () else refuseResult answer) := by
  cases position <;> simp only [run, invoke, reduceCtorEq, if_true, if_false]

theorem refuseResult_raises {answer : Value} (h : answer ≠ .null) (factory : ErrorFactory) :
    (refuseResult answer factory).result = .error (objection answer factory) := by
  have hrefuse : refuseResult answer =
      Check.failText (Check.ofExcept (resultComplaint answer)) := by
    cases answer with
    | null => exact absurd rfl h
    | _ => rfl
  rw [hrefuse]
  -- An empty message would not get as far as the factory.
  refine Check.failText_ofExcept_raises (bind_ne_empty fun form => ?_)
  simp only [String.append_assoc]
  exact ok_append_ne_empty (by decide) _

end Callable

namespace Assertion

/-- A run comes to a visit: it is one of its visits, those in front of it pass, and some are left
    behind it. -/
def ComesTo (factory : ErrorFactory) (a : Assertion) (position : Position) (v : Value) (c : Context)
    (visit : Visit) (left : List Visit) : Prop :=
  ∃ before, a.visits position v = before ++ visit :: left ∧
    ∀ earlier ∈ before, (earlier.run c factory).result = .ok ()

/-- The function that is called at a node: one from outside, or a plain value that is one. -/
def invoked? : Assertion → Option Callable
  | callable f => some f
  | value w => w.asCallable?
  | _ => none

section Coming

variable {factory : ErrorFactory} {a : Assertion} {position : Position} {v : Value} {c : Context}
  {visit : Visit} {left : List Visit}

/-- A run that comes to a visit ends as the visit and what is left behind it do. -/
theorem result_of_comesTo (h : a.ComesTo factory position v c visit left) :
    (a.run position v c factory).result =
      ((visit.run c >>= fun _ => runVisits left c) factory).result := by
  rcases h with ⟨before, hvisits, hbefore⟩
  rw [run_eq_runVisits, hvisits, runVisits_append, Check.result_bind,
    runVisits_passes_iff.mpr hbefore]
  rfl

theorem run_raises_of_comesTo (h : a.ComesTo factory position v c visit left) {raised : Raised}
    (hraised : (visit.run c factory).result = .error raised) :
    (a.run position v c factory).result = .error raised := by
  rw [result_of_comesTo h, Check.result_bind, hraised]

end Coming

section Answers

variable {factory : ErrorFactory} {b : Assertion} {q : Position} {w answer : Value} {place : Place}
  {c : Context} {f : Callable}

theorem inspect_of_invoked (hf : b.invoked? = some f) (d : Context) :
    b.inspect q w d = f.run q w d := by
  cases b with
  | callable g =>
      rw [← Option.some.inj hf]
      rfl
  | value u =>
      have hu : u.asCallable? = some f := hf
      simp only [inspect, hu]
  | _ => exact absurd hf (by simp only [invoked?, reduceCtorEq, not_false_eq_true])

/-- A function that returns a value is no assertion. A run that calls it as one fails with an
    objection to the value, in a table too. The objection is what the factory makes of a message
    that quotes the value, as far as the value can be written. A function that is called directly to
    close an object or a record may return anything: the run ends as what is left behind the call
    does. -/
theorem run_refuses_answer (hf : b.invoked? = some f)
    (hanswer : (f.invoke q w (place.contextFrom c) factory).result = .ok answer)
    (hvalue : answer ≠ .null) :
    (q ≠ .direct →
      (∀ (a : Assertion) (position : Position) (v : Value) (left : List Visit),
        a.ComesTo factory position v c ⟨.node b q, w, place⟩ left →
          (a.run position v c factory).result = .error (Callable.objection answer factory)) ∧
      ∀ (library : TableLibrary) (row : Assertion) (rules : ArrayRules) (table : Frame)
        (records : List Value) (left : List Visit), library.records table = .ok records →
          (array row rules).ComesTo factory .direct (.list .converted records) c
            ⟨.node b q, w, place⟩ left →
            (assertFrame library row rules (.frame table) c factory).result =
              .error (Callable.objection answer factory)) ∧
    (answer.IsWritable → ∃ s, answer.quoted = .ok s ∧
      Callable.objection answer factory = factory (.text
        ("Assertion function must assert (return None) but it returns a value: " ++ s ++
          ". Wrap with from_check()?")) []) ∧
    (∀ f, answer.quoted = .error f → Callable.objection answer factory = .fault f) ∧
    (q = .direct →
      ∀ (a : Assertion) (position : Position) (v : Value) (left : List Visit),
        a.ComesTo factory position v c ⟨.node b q, w, place⟩ left →
          (a.run position v c factory).result = (runVisits left c factory).result) := by
  have hvisit : (Visit.run ⟨.node b q, w, place⟩ c factory).result =
      ((if q = .direct then pure () else Callable.refuseResult answer : Check Unit)
        factory).result := by
    have hrun : Visit.run ⟨.node b q, w, place⟩ c = b.inspect q w (place.contextFrom c) := rfl
    rw [hrun, inspect_of_invoked hf, Callable.run_eq_invoke, Check.result_bind, hanswer]
  refine ⟨fun hq => ?_, fun h => Callable.objection_of_isWritable h factory,
    fun f h => Callable.objection_of_quoted_error h factory, fun hq a position v left hcomes => ?_⟩
  · rw [if_neg hq, Callable.refuseResult_raises hvalue] at hvisit
    refine ⟨fun a position v left hcomes => run_raises_of_comesTo hcomes hvisit,
      fun library row rules table records left hrecords hcomes => ?_⟩
    -- A table is checked as the array of its records.
    simp only [assertFrame, Tabular.run, hrecords, Check.ofExcept_ok, pure_bind]
    exact run_raises_of_comesTo hcomes hvisit
  · rw [if_pos hq] at hvisit
    rw [result_of_comesTo hcomes, Check.result_bind, hvisit]
    rfl

/-- A function that takes a value and a context and returns an answer. -/
def answering (answer : Value) : Callable :=
  ⟨.unnamed, .assertion, fun _ _ => pure answer⟩

/-- A predicate where a field is checked. -/
theorem run_refuses_answer_field :
    ((schema .dict [(.text "a", callable (answering (.bool true)))]).run .part
      (.dict (.given 0) [(.text "a", .int 1)]) (.root none) .standard).result =
        .error (Callable.objection (.bool true) .standard) := by
  have hcomes : (schema .dict [(.text "a", callable (answering (.bool true)))]).ComesTo .standard
      .part (.dict (.given 0) [(.text "a", .int 1)]) (.root none)
      ⟨.node (callable (answering (.bool true))) .part, .int 1, ⟨none, [.field (.text "a")]⟩⟩
      [] := by
    refine ⟨[.here (.node _ .part) (.dict (.given 0) [(.text "a", .int 1)])], rfl,
      List.forall_mem_singleton.mpr rfl⟩
  exact ((run_refuses_answer rfl rfl (by simp)).1 (by decide)).1 _ _ _ _ hcomes

/-- What closes an object or a record answers that it does not hold, and the run passes. -/
theorem closing_answer_ignored :
    ((schema .dict [(.text crossFieldKey, callable (answering (.bool false)))]).run .part
        (.dict (.given 0) [(.text "a", .int 1)]) (.root none) .standard).result = .ok () ∧
      ((record (primitive .number) none none (some (callable (answering (.bool false))))).run
        .direct (.dict (.given 0) [(.text "a", .int 1)]) (.root none) .standard).result = .ok () :=
  ⟨rfl, rfl⟩

end Answers

section Nonassertions

variable {factory : ErrorFactory} {a : Assertion} {position : Position} {u v w : Value}
  {place : Place} {c : Context} {left : List Visit}

/-- What is no function is reported among the parts of a container, and called elsewhere. -/
theorem inspect_nonassertion (h : w.isCallable = false) (q : Position) (d : Context) :
    (value w).inspect q u d =
      if q = .part then
        d.failBehind (.ok (" assertion is not an object or a function: " ++ w.kindLabel))
      else Check.raise (.fault (.notCallable w.className)) := by
  cases q <;> simp only [inspect, Value.asCallable?_eq_none h, reduceCtorEq, if_true, if_false]

/-- A plain value that is no function, where an assertion belongs. Among the parts of a container
    it is reported through the factory with its place, and so it is as the cross-field entry of a
    schema. In every other position it is called, and the run raises the fault of the call. -/
theorem run_meets_nonassertion (hw : w.isCallable = false) :
    (∀ q, a.ComesTo factory position v c ⟨.node (value w) q, u, place⟩ left →
      (a.run position v c factory).result = .error (if q = .part then (place.contextFrom c).refusal
          (.ok (" assertion is not an object or a function: " ++ w.kindLabel)) factory
        else .fault (.notCallable w.className))) ∧
    ∀ key, isCrossField key = .ok true →
      a.ComesTo factory position v c ⟨.crossField key (value w), u, place⟩ left →
        (a.run position v c factory).result = .error ((place.contextFrom c).refusal
          (do return "." ++ (← key.plain) ++ " cross-field assertion is not a function: " ++
            w.kindLabel) factory) := by
  refine ⟨fun q hcomes => run_raises_of_comesTo hcomes ?_,
    fun key hkey hcomes => run_raises_of_comesTo hcomes ?_⟩
  · have hrun : Visit.run ⟨.node (value w) q, u, place⟩ c =
        (value w).inspect q u (place.contextFrom c) := rfl
    have hmessage : (.ok (" assertion is not an object or a function: " ++ w.kindLabel) :
        Except Fault String) ≠ .ok "" := ok_append_ne_empty (by decide) _
    rw [hrun, inspect_nonassertion hw]
    by_cases hq : q = .part
    · rw [if_pos hq, if_pos hq, Context.failBehind_raises _ hmessage]
    · rw [if_neg hq, if_neg hq]
      rfl
  · have hrun : Visit.run ⟨.crossField key (value w), u, place⟩ c =
        inspectCrossField key (value w) (place.contextFrom c) := rfl
    have hplain : (value w).isCallable = false := hw
    have hmessage : crossFieldComplaint key (value w) ≠ .ok "" := by
      refine bind_ne_empty fun k => ?_
      simp only [String.append_assoc]
      exact ok_append_ne_empty (by decide) _
    -- The entry is tested as soon as its key is known, before the call that closes the object.
    rw [hrun, inspectCrossField, hkey, Check.ofExcept_ok, pure_bind, if_pos rfl, hplain,
      if_neg Bool.false_ne_true]
    exact Context.failBehind_raises _ hmessage factory

/-- A number where a field is checked, behind an accepted value, and under the key of the
    cross-field entry. -/
theorem run_meets_nonassertion_number :
    ((schema .dict [(.text "n", value (.int 5))]).run .part (.dict (.given 0) []) (.root none)
        .standard).result =
        .error (.built .schemaError [.text ".n assertion is not an object or a function: number"]) ∧
      ((valueOr .undefined (value (.int 5))).run .part .null (.root none) .standard).result =
        .error (.fault (.notCallable "int")) ∧
      ((schema .dict [(.text crossFieldKey, value (.int 5))]).run .part (.dict (.given 0) [])
        (.root none) .standard).result = .error
          (.built .schemaError [.text ".$o cross-field assertion is not a function: number"]) := by
  have hnumber : (Value.int 5).isCallable = false := rfl
  have hfield : (schema .dict [(.text "n", value (.int 5))]).ComesTo .standard .part
      (.dict (.given 0) []) (.root none)
      ⟨.node (value (.int 5)) .part, .undefined, ⟨none, [.field (.text "n")]⟩⟩ [] :=
    ⟨[.here (.node _ .part) (.dict (.given 0) [])], rfl, List.forall_mem_singleton.mpr rfl⟩
  have hfallback : (valueOr .undefined (value (.int 5))).ComesTo .standard .part .null (.root none)
      ⟨.node (value (.int 5)) .fallback, .null, .start⟩ [] :=
    ⟨[], rfl, fun _ hmem => absurd hmem List.not_mem_nil⟩
  have hclosing : (schema .dict [(.text crossFieldKey, value (.int 5))]).ComesTo .standard .part
      (.dict (.given 0) []) (.root none)
      ⟨.crossField (.text crossFieldKey) (value (.int 5)), .dict (.given 0) [], .start⟩
      [.here (.node (value (.int 5)) .direct) (.dict (.given 0) [])] :=
    ⟨[.here (.node _ .part) (.dict (.given 0) [])], rfl, List.forall_mem_singleton.mpr rfl⟩
  exact ⟨(run_meets_nonassertion hnumber).1 .part hfield,
    (run_meets_nonassertion hnumber).1 .fallback hfallback,
    (run_meets_nonassertion hnumber).2 (.text crossFieldKey) rfl hclosing⟩

/-- A number that is met behind an accepted value, or that is to close a record, is called, and
    the run raises a type error. -/
theorem nonassertion_called :
    ((schema .dict [(.text "n", undefinedOr (value (.int 5)))]).run .part
        (.dict (.given 0) [(.text "n", .int 1)]) (.root none) .standard).result =
        .error (.fault (.notCallable "int")) ∧
      ((record (primitive .string) none none (some (value (.int 5)))).run .direct
        (.dict (.given 0) []) (.root none) .standard).result =
        .error (.fault (.notCallable "int")) ∧
      (Raised.fault (.notCallable "int")).kind = .typeError :=
  ⟨rfl, rfl, rfl⟩

end Nonassertions

end Assertion

end Attest
