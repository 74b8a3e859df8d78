import Attest.Probe
import Attest.Proofs.Complaints

/-!
# Exceptions Given by a Context

Where an exception that a context gives is raised as it is, and where it becomes the beginning of a
message.

A context is read in two ways. A complaint at a leaf evaluates it, and what it gives at the start of
a run is what the leaf sees. All other complaints read it as text. So an exception comes through
unchanged only at the start, and there only from a leaf, wherever in the tree the leaf stands: a
fallback and what closes an object or a record are checked in the context of the run too. One step
further, and in every other complaint, the exception is written, and the factory makes the report.
An exception may refuse to be written, and so may a key on the way or the value. What is raised then
is the fault of writing it, which takes the place of the report. At the start of a run a leaf writes
nothing, and the exception is raised whatever it holds.

`run_given_exception` says which of these it is for the visit that a run comes to, and that a run
fails for no other reason that has to do with the exception. What is raised without a complaint is
the same under every context that can be written. One case of this is easily overlooked: a predicate
does not hold, and the message that comes with it raises. `test_message_raises` is such a run, which
ends neither with the exception that was given nor with a report.

## Main definitions

* `Visit.WritesBehind`: What a visit writes for a report behind an exception can be written.
* `boom`, `missing`: Exceptions to give and to raise.

## Theorems

* `foldl_extend_eq_root_iff`: Only at the end of no steps the context of the run is met again.
* `renderAlong_written`, `opens_of_renderAlong`: An exception as it is seen from below the start.
* `explain_given`, `explain_along_given`: A complaint at a leaf, at the start and below it.
* `raises_along_given`: A report begins with the exception.
* `raises_given`: What becomes of an exception, in terms of one visit.
* `exists_comesTo_of_raises`: A run that fails comes to a visit that fails.
* `run_given_exception`: What becomes of an exception that the context gives.
* `test_message_raises`: A report that is never made.
-/

namespace Attest

section Given

variable {provider : Option Provider} {factory : ErrorFactory} {id : Identity}
  {kind : ExceptionKind} {arguments : List Value}

theorem Provider.render_exception_ne_empty :
    Provider.render (.exception id kind arguments) ≠ .ok "" := by
  intro h
  rcases except_bind_ok_iff.mp h with ⟨form, _, hform⟩
  have hrendered : (if form = "" then "<no error message>" else form) = "" := Except.ok.inj hform
  by_cases hempty : form = ""
  · rw [if_pos hempty] at hrendered
    exact absurd hrendered (by decide)
  · rw [if_neg hempty] at hrendered
    exact hempty hrendered

theorem Context.foldl_extend_eq_root_iff {path : List Step} :
    path.foldl Step.extend (.root provider) = .root provider ↔ path = [] := by
  rcases List.eq_nil_or_concat path with rfl | ⟨front, step, rfl⟩
  · exact iff_of_true rfl rfl
  · -- The last step makes the context one of a field, an element or an item.
    refine iff_of_false (fun h => ?_) (by simp)
    rw [List.concat_eq_append, List.foldl_append, List.foldl_cons, List.foldl_nil] at h
    cases step <;> exact absurd h (by simp only [Step.extend, reduceCtorEq, not_false_eq_true])

/-- What is seen of an exception from a place below the start can be written if the exception and
    the steps can. -/
theorem renderAlong_written (given : Value) (path : List Step) :
    Written (given.IsWritable ∧ ∀ step ∈ path, step.IsWritable)
      (Context.renderAlong path given) :=
  (render_written And.left).bind fun _ => ((pathText_written path).mono And.right).map _

/-- The exception stands in front of the steps, and it does not give the empty text. -/
theorem opens_of_renderAlong {path : List Step} {place : String}
    (h : Context.renderAlong path (.exception id kind arguments) = .ok place) :
    place ≠ "" ∧ ∃ s rest, Provider.render (.exception id kind arguments) = .ok s ∧
      place = s ++ rest := by
  rcases except_bind_ok_iff.mp h with ⟨s, hs, hplace⟩
  rcases except_bind_ok_iff.mp hplace with ⟨steps, _, hsteps⟩
  refine ⟨fun hempty => ?_, s, steps, hs, (Except.ok.inj hsteps).symm⟩
  rw [← Except.ok.inj hsteps, String.append_eq_empty_iff] at hempty
  exact Provider.render_exception_ne_empty (hempty.1 ▸ hs)

/-- A complaint at a leaf raises an exception that the place gives. -/
theorem Context.explain_given {c : Context} (message : String) (v : Value)
    (h : (c.evaluate factory).result = .ok (.exception id kind arguments)) :
    ((Check.fail (c.explain message v) [] : Check Unit) factory).result =
      .error (.given id kind arguments) := by
  unfold Check.fail explain
  simp only [Check.result_bind, h]
  rfl

/-- A complaint at a leaf puts a text that the place gives in front of what it says. -/
theorem Context.explain_text {c : Context} {W : Prop} (message : String) {v : Value}
    (hv : W → v.IsWritable) {place : String}
    (h : (c.evaluate factory).result = .ok (.text place)) (hne : place ≠ "") :
    Check.IsReport factory W (.ok place)
      ((Check.fail (c.explain message v) [] : Check Unit) factory).result := by
  have htruthy : (Value.text place).isTruthy = true := decide_eq_true hne
  have hcomplaint : Context.complaint (.text place) message v =
      (v.shown >>= fun form => .ok (place ++ ": " ++ message ++ " " ++ form)) := by
    simp only [complaint, htruthy, if_true, Value.plain]
    rfl
  have hfails : ((Check.fail (c.explain message v) [] : Check Unit) factory).result =
      ((Check.failText (Check.ofExcept (complaint (.text place) message v)) : Check Unit)
        factory).result := by
    have hexplain : (c.explain message v factory).result =
        ((do return .text (← Check.ofExcept (complaint (.text place) message v)) : Check Value)
          factory).result := by
      simp only [explain, Check.result_bind, h]
    simp only [Check.failText, Check.fail, Check.result_bind _ _ factory, hexplain]
  rw [hfails]
  rcases Value.shown_written hv with ⟨form, hform⟩ | ⟨hno, fault, hfault, hraised⟩
  · rw [hcomplaint, hform, Check.failText_ofExcept_raises fun hempty => ?_]
    · exact Or.inl ⟨place, ": " ++ message ++ " " ++ form, rfl, by
        simp only [bind, Except.bind, Raised.ofReport, String.append_assoc]⟩
    · simp only [bind, Except.bind, Except.ok.injEq, String.append_eq_empty_iff] at hempty
      exact hne hempty.1.1.1.1
  · rw [hcomplaint, hraised]
    exact Or.inr ⟨hno, fault, hfault, rfl⟩

/-- The text of a place is what the context gave, as it is seen from there. -/
theorem Context.text_along_given (path : List Step)
    (h : (Provider.evaluate provider factory).result = .ok (.exception id kind arguments)) :
    ((path.foldl Step.extend (.root provider)).text factory).result =
      (Check.ofExcept (renderAlong path (.exception id kind arguments)) factory).result := by
  rw [text_along, Check.result_bind, h]

/-- What reports with the text of its place in front reports with the exception in front. -/
theorem Context.raises_along_given {α : Type} {W : Prop} {x : Context → Check α}
    (hx : Check.Reports factory W x) (path : List Step)
    (h : (Provider.evaluate provider factory).result = .ok (.exception id kind arguments)) :
    Check.IsReport factory
      (((Value.exception id kind arguments).IsWritable ∧ ∀ step ∈ path, step.IsWritable) ∧ W)
      (Provider.render (.exception id kind arguments))
      (x (path.foldl Step.extend (.root provider)) factory).result := by
  have htext := text_along_given path h
  have htells : ((path.foldl Step.extend (.root provider)).text).Tells factory
      ((Value.exception id kind arguments).IsWritable ∧ ∀ step ∈ path, step.IsWritable) := by
    unfold Check.Tells
    rw [htext]
    exact Check.ofExcept_tells (renderAlong_written _ path)
  have hopens : ∀ {place}, ((path.foldl Step.extend (.root provider)).text factory).result =
      .ok place → renderAlong path (.exception id kind arguments) = .ok place :=
    fun hplace => Check.ofExcept_ok_iff.mp (htext ▸ hplace)
  rcases hx _ _ htells fun place hplace => (opens_of_renderAlong (hopens hplace)).1 with
    ⟨place, rest, hplace, hrest⟩ | hunwritable
  · rcases (opens_of_renderAlong (hopens hplace)).2 with ⟨s, steps, hs, rfl⟩
    exact Or.inl ⟨s, steps ++ rest, hs, by rw [hrest, String.append_assoc]⟩
  · exact Or.inr hunwritable

/-- A complaint at a leaf below the start puts the exception in front of what it says. -/
theorem Context.explain_along_given {step : Step} {path : List Step} {W : Prop} (message : String)
    {v : Value} (hv : W → v.IsWritable)
    (h : (Provider.evaluate provider factory).result = .ok (.exception id kind arguments)) :
    Check.IsReport factory
      (((Value.exception id kind arguments).IsWritable ∧
        ∀ taken ∈ step :: path, taken.IsWritable) ∧ W)
      (Provider.render (.exception id kind arguments))
      ((Check.fail (((step :: path).foldl Step.extend (.root provider)).explain message v) [] :
        Check Unit) factory).result := by
  have hseen : (((step :: path).foldl Step.extend (.root provider)).evaluate factory).result =
      (Check.ofExcept (Value.text <$> renderAlong (step :: path) (.exception id kind arguments))
        factory).result := by
    rw [evaluate_along, Check.result_bind, h]
    rfl
  have hwritten := renderAlong_written (.exception id kind arguments) (step :: path)
  rcases hplace : renderAlong (step :: path) (.exception id kind arguments) with fault | place
  · -- What cannot be seen from the place is all that is raised.
    rw [hplace] at hseen
    refine Or.inr ⟨fun hW => ?_, fault, hwritten.isUnwritable hplace, ?_⟩
    · rcases hwritten.exists_ok hW.1 with ⟨place, hok⟩
      exact absurd (hplace.symm.trans hok) (by simp only [reduceCtorEq, not_false_eq_true])
    · have hexplain : ((((step :: path).foldl Step.extend (.root provider)).explain message v)
          factory).result = .error (.fault fault) := by
        unfold explain
        rw [Check.result_bind, hseen]
        rfl
      unfold Check.fail
      rw [Check.result_bind, hexplain]
  · rw [hplace] at hseen
    rcases opens_of_renderAlong hplace with ⟨hne, s, steps, hs, rfl⟩
    rcases explain_text message (W := _ ∧ W) (fun hW => hv hW.2) hseen hne with
      ⟨_, rest, hopening, hrest⟩ | hunwritable
    · refine Or.inl ⟨s, steps ++ rest, hs, ?_⟩
      rw [hrest, ← Except.ok.inj hopening, String.append_assoc]
    · exact Or.inr hunwritable

/-- What a visit writes for a report behind an exception can be written: the exception, the steps
    to the visit, and what is reported. -/
def Visit.WritesBehind (factory : ErrorFactory) (given : Value) (visit : Visit) : Prop :=
  (given.IsWritable ∧ ∀ step ∈ visit.place.path, step.IsWritable) ∧
    visit.inspection.ReportsWritable factory visit.value

/-- What the complaint of one visit makes of an exception that the context gives. -/
theorem Visit.raises_given {visit : Visit} (hown : visit.place.own = none)
    (hgiven : (Provider.evaluate provider factory).result = .ok (.exception id kind arguments)) :
    (visit.inspection.FailsAtLeaf visit.value →
      (visit.place.path = [] →
        (visit.run (.root provider) factory).result = .error (.given id kind arguments)) ∧
      (visit.place.path ≠ [] → Check.IsReport factory
        (visit.WritesBehind factory (.exception id kind arguments))
        (Provider.render (.exception id kind arguments))
        (visit.run (.root provider) factory).result)) ∧
    (visit.inspection.Complains factory visit.value → Check.IsReport factory
      (visit.WritesBehind factory (.exception id kind arguments))
      (Provider.render (.exception id kind arguments))
      (visit.run (.root provider) factory).result) := by
  rcases visit with ⟨inspection, v, own, path⟩
  simp only at hown
  subst hown
  have hcontext : (Place.mk none path).contextFrom (.root provider) =
      path.foldl Step.extend (.root provider) := rfl
  simp only [Visit.run, hcontext]
  refine ⟨fun hleaf => ?_, fun hcomplains =>
    Context.raises_along_given (Inspection.reports_of_complains hcomplains) path hgiven⟩
  rcases Inspection.explains_of_failsAtLeaf hleaf with ⟨message, hexplain⟩
  rw [hexplain]
  refine ⟨fun hstart => ?_, fun hbelow => ?_⟩
  · subst hstart
    exact Context.explain_given message v hgiven
  · rcases path with _ | ⟨step, path⟩
    · exact absurd rfl hbelow
    · exact Context.explain_along_given message And.left hgiven

end Given

namespace Assertion

section Unbound

variable {a : Assertion} {factory : ErrorFactory} {position : Position} {v : Value} {c : Context}
  {visit : Visit}

theorem ComesTo.mem {left : List Visit} (h : a.ComesTo factory position v c visit left) :
    visit ∈ a.visits position v := by
  rcases h with ⟨before, hvisits, _⟩
  rw [hvisits]
  exact List.mem_append_right before List.mem_cons_self

/-- A run that fails comes to the visit that fails. -/
theorem exists_comesTo_of_raises {raised : Raised}
    (h : (a.run position v c factory).result = .error raised) :
    ∃ visit left, a.ComesTo factory position v c visit left ∧
      (visit.run c factory).result = .error raised := by
  rw [run_eq_runVisits] at h
  rcases runVisits_cases (a.visits position v) c factory with
    ⟨_, hrun⟩ | ⟨before, visit, left, other, hvisits, hbefore, hvisit, hrun⟩
  · rw [hrun] at h
    exact absurd h (by simp only [reduceCtorEq, not_false_eq_true])
  · rw [hrun] at h
    exact ⟨visit, left, ⟨before, hvisits, hbefore⟩, Except.error.inj h ▸ hvisit⟩

/-- Without places of their own in the tree, all visits start where the run does. -/
theorem own_eq_none_of_unbound (ha : a.Everywhere IsUnbound) (hmem : visit ∈ a.visits position v) :
    visit.place.own = none := by
  rcases hown : visit.place.own with _ | own
  · rfl
  · rcases visits_own ha position v visit hmem own hown with ⟨inner, rules, hunbound⟩
    exact absurd hunbound (by simp only [IsUnbound, reduceCtorEq, not_false_eq_true])

theorem contextFrom_of_unbound (ha : a.Everywhere IsUnbound) (hmem : visit ∈ a.visits position v)
    (c : Context) : visit.place.contextFrom c = visit.place.path.foldl Step.extend c := by
  unfold Place.contextFrom
  rw [own_eq_none_of_unbound ha hmem]
  rfl

end Unbound

/-- What becomes of an exception that the context gives, in a tree without places of their own. The
    run comes to a visit with a complaint. If this is a complaint at a leaf, and no step leads to
    it, so that the leaf is checked in the very context of the run, the exception is raised as it
    is. If it is a complaint at a leaf further below, or any other complaint, the factory is asked
    for a report, and the message begins with the exception written, or with a remark where that
    is empty. There is no report if the exception, a step to the visit, or what is reported cannot
    be written: then this fault is raised, and nothing else.

    No other run has anything to do with the exception. A run that fails without a complaint has
    called a function as an assertion, or it has come to something that raises the same under every
    context that can be written, or to the fault of writing the exception or a step. The rows of a
    table are checked as an array of them, whatever the library makes of the table, and what is no
    table is one more thing to complain about. -/
theorem run_given_exception {a : Assertion} (ha : a.Everywhere IsUnbound)
    {provider : Option Provider} {factory : ErrorFactory} {id : Identity} {kind : ExceptionKind}
    {arguments : List Value}
    (hgiven : (Provider.evaluate provider factory).result = .ok (.exception id kind arguments))
    (position : Position) (v : Value) :
    (∀ visit left, a.ComesTo factory position v (.root provider) visit left →
      Leads v visit.place.path visit.value ∧
      (visit.place.contextFrom (.root provider) = .root provider ↔ visit.place.path = []) ∧
      (visit.inspection.FailsAtLeaf visit.value →
        (visit.place.path = [] → (a.run position v (.root provider) factory).result =
          .error (.given id kind arguments)) ∧
        (visit.place.path ≠ [] → Check.IsReport factory
          (visit.WritesBehind factory (.exception id kind arguments))
          (Provider.render (.exception id kind arguments))
          (a.run position v (.root provider) factory).result)) ∧
      (visit.inspection.Complains factory visit.value → Check.IsReport factory
        (visit.WritesBehind factory (.exception id kind arguments))
        (Provider.render (.exception id kind arguments))
        (a.run position v (.root provider) factory).result)) ∧
    (∀ raised, (a.run position v (.root provider) factory).result = .error raised →
      ∃ visit left, a.ComesTo factory position v (.root provider) visit left ∧
        (visit.run (.root provider) factory).result = .error raised ∧
        (visit.inspection.FailsAtLeaf visit.value ∨
          visit.inspection.Complains factory visit.value ∨
          (∃ b q f, visit.inspection = .node b q ∧ b.invoked? = some f) ∨
          (∀ c place, (c.text factory).result = .ok place →
            (visit.inspection.run visit.value c factory).result = .error raised) ∨
          ∃ f : Fault, Context.renderAlong visit.place.path (.exception id kind arguments) =
            .error f ∧ raised = .fault f)) ∧
    ∀ rules, (∀ (library : TableLibrary) f records, library.records f = .ok records →
        assertFrame library a rules (.frame f) (.root provider) =
          (array a rules).run .direct (.list .converted records) (.root provider)) ∧
      ∀ library, Check.IsReport factory
        ((Value.exception id kind arguments).IsWritable ∧ v.IsWritable)
        (Provider.render (.exception id kind arguments))
        (assertFrame library a rules (.value v) (.root provider) factory).result := by
  refine ⟨fun visit left hcomes => ?_, fun raised hfail => ?_, fun rules =>
    ⟨fun library f records hrecords => ?_, fun library => ?_⟩⟩
  · have hmem : visit ∈ a.visits position v := hcomes.mem
    have hown := own_eq_none_of_unbound ha hmem
    rcases Visit.raises_given hown hgiven with ⟨hleaf, hcomplains⟩
    have hcontext := contextFrom_of_unbound ha hmem (.root provider)
    refine ⟨visits_lead ha position v visit hmem hown,
      hcontext ▸ Context.foldl_extend_eq_root_iff,
      fun h => ⟨fun hstart => ?_, fun hbelow => ?_⟩, fun h => ?_⟩
    · exact run_raises_of_comesTo hcomes ((hleaf h).1 hstart)
    · exact ((hleaf h).2 hbelow).of_raises fun _ => run_raises_of_comesTo hcomes
    · exact (hcomplains h).of_raises fun _ => run_raises_of_comesTo hcomes
  · rcases exists_comesTo_of_raises hfail with ⟨visit, left, hcomes, hvisit⟩
    refine ⟨visit, left, hcomes, hvisit, or_iff_not_imp_left.mpr fun hnoLeaf =>
      or_iff_not_imp_left.mpr fun hcontent => or_iff_not_imp_left.mpr fun hcalled => ?_⟩
    have hmem : visit ∈ a.visits position v := hcomes.mem
    have hunbound : ∀ b q, visit.inspection = .node b q → b.IsUnbound := by
      intro b q hnode
      have hstem := visits_stem ha position v visit hmem
      rwa [hnode] at hstem
    have hinvoked : ∀ b q, visit.inspection = .node b q → b.invoked? = none := fun b q hnode =>
      Option.eq_none_iff_forall_ne_some.mpr fun f hf => hcalled ⟨b, q, f, hnode, hf⟩
    rcases Inspection.steady_of_content hunbound hinvoked hnoLeaf hcontent with ⟨ending, hsteady⟩
    rcases hsteady (visit.place.contextFrom (.root provider)) with hhere | ⟨other, hplace, hother⟩
    · -- The visit has ended as it does at all places, so it does so at every other one.
      refine Or.inl fun c place hplace => ?_
      rcases hsteady c with hthere | ⟨other, hother, _⟩
      · rw [hthere, ← hhere]
        exact hvisit
      · exact absurd (hplace.symm.trans hother) (by simp only [reduceCtorEq, not_false_eq_true])
    · refine Or.inr ?_
      rw [contextFrom_of_unbound ha hmem, Context.text_along_given _ hgiven] at hplace
      rcases hseen : Context.renderAlong visit.place.path (.exception id kind arguments) with f | s
      · rw [hseen] at hplace
        have hsame : raised = other := Except.error.inj (hvisit.symm.trans hother)
        exact ⟨f, rfl, hsame.trans (Except.error.inj hplace).symm⟩
      · rw [hseen] at hplace
        exact absurd hplace (by
          simp only [Check.ofExcept_ok, Check.pure_apply, reduceCtorEq, not_false_eq_true])
  · simp only [assertFrame, Tabular.run, hrecords, Check.ofExcept_ok, pure_bind]
  · have hreports : Check.Reports factory v.IsWritable (assertFrame library a rules (.value v)) :=
      Check.reports_of_failUnder (withShown_written (fun hv => hv) _) fun _ => rfl
    exact (Context.raises_along_given hreports [] hgiven).mono fun hwritable =>
      ⟨⟨hwritable.1, fun step hmem => absurd hmem List.not_mem_nil⟩, hwritable.2⟩

/-- An exception that a context gives. -/
def boom : Value :=
  .exception (.given 0) .valueError [.text "boom"]

/-- An exception that a message raises. -/
def missing : Value :=
  .exception (.given 1) .keyError [.text "m"]

/-- A text where a number belongs, behind two values that are accepted in its place, and in a
    field. -/
theorem run_given_exception_layers :
    ((valueOr .undefined (valueOr .null (primitive .number))).run .called (.text "x")
        (.root (some (Probe.giving boom))) .standard).result =
        .error (.given (.given 0) .valueError [.text "boom"]) ∧
      ∃ rest, ((schema .dict [(.text "n", primitive .number)]).run .part
        (.dict (.given 2) [(.text "n", .text "x")]) (.root (some (Probe.giving boom)))
        .standard).result = .error (.built .schemaError [.text ("boom" ++ rest)]) := by
  have hcomplains : Primitive.number.holds (.text "x") = false := rfl
  have hlayers : (valueOr .undefined (valueOr .null (primitive .number))).ComesTo .standard
      .called (.text "x") (.root (some (Probe.giving boom)))
      (.here (.node (primitive .number) .fallback) (.text "x")) [] :=
    ⟨[], rfl, fun _ hmem => absurd hmem List.not_mem_nil⟩
  have hfield : (schema .dict [(.text "n", primitive .number)]).ComesTo .standard .part
      (.dict (.given 2) [(.text "n", .text "x")]) (.root (some (Probe.giving boom)))
      ⟨.node (primitive .number) .part, .text "x", ⟨none, [.field (.text "n")]⟩⟩ [] :=
    ⟨[.here (.node _ .part) _], rfl, List.forall_mem_singleton.mpr rfl⟩
  have hunbound : (valueOr .undefined (valueOr .null (primitive .number))).Everywhere IsUnbound :=
    ⟨trivial, trivial, trivial⟩
  have hfieldUnbound : (schema .dict [(.text "n", primitive .number)]).Everywhere IsUnbound :=
    ⟨trivial, trivial, trivial⟩
  have hstart := ((run_given_exception hunbound rfl _ _).1 _ _ hlayers).2.2.1
    (.primitive hcomplains)
  have hbelow := ((run_given_exception hfieldUnbound rfl _ _).1 _ _ hfield).2.2.1
    (.primitive hcomplains)
  have hwrites : Visit.WritesBehind .standard boom
      ⟨.node (primitive .number) .part, .text "x", ⟨none, [.field (.text "n")]⟩⟩ :=
    ⟨⟨⟨⟨nofun, nofun⟩, trivial, trivial⟩, List.forall_mem_singleton.mpr trivial⟩, trivial, trivial⟩
  refine ⟨hstart.1 rfl, ?_⟩
  rcases hbelow.2 (List.cons_ne_nil _ _) with ⟨s, rest, hs, hrest⟩ | ⟨hno, _⟩
  · rw [← Except.ok.inj hs] at hrest
    exact ⟨rest, hrest⟩
  · exact absurd hwrites hno

/-- A predicate does not hold, and the message that comes with it raises. The run ends with what the
    message raised. This is neither the exception that the context gives nor a report of any
    kind. -/
theorem test_message_raises :
    ((test (fun _ => pure (.bool false)) (some (Probe.raising missing))).run .called (.int 1)
        (.root (some (Probe.giving boom))) .standard).result =
        .error (.given (.given 1) .keyError [.text "m"]) ∧
      Raised.given (.given 1) .keyError [.text "m"] ≠ .ofValue boom ∧
      ∀ message extra, Raised.given (.given 1) .keyError [.text "m"] ≠
        ErrorFactory.standard message extra :=
  ⟨rfl, nofun, nofun⟩

end Assertion

end Attest
