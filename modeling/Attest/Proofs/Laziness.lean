import Attest.Factory
import Attest.Proofs.Cost
import Attest.Proofs.Localization

/-!
# Laziness

What a run does with the providers that are offered to it.

The provider that a run starts from may be expensive, or may raise, so a run that has
nothing to report must not touch it. `Check.IsLazy` says more than that: as a function of
its provider a lazy computation either is constant, or makes the same calls for every
provider up to a point, evaluates it there, and ends with a report. There is no room in it
for a second evaluation, however deep the failing check stands and however many places are
written into each other to get its text.

The messages of predicates are not offered from outside but stand in the tree, so nothing
can be said about all ways of replacing them. For them the calls in the trace are counted.
`run_lazy` bounds the count by one evaluation of the start and one of a single message, and
only the message of a predicate that was asked and answered with no.

## Main definitions

* `Outcome.reported`: What a report leaves behind.
* `Check.IsLazy`: How a computation may use the provider that it is offered.
* `Context.along`: The context at the end of a path that starts from a provider.
* `Check.PaysLate`: What costs no more than one evaluation, and nothing if it gives a value.
* `Assertion.IsQuiet`: What a node calls leaves no event of a kind.
* `Visit.FailsTest`: A visit asks a predicate, which answers with no.

## Theorems

* `IsLazy.bind`, `PaysLate.bind`: Sequences of such computations.
* `run_isLazy`: A run of a local tree is lazy.
* `cost_text`: To write a place costs one evaluation of the provider at its start.
* `visit_cost`: What a single visit costs.
* `runVisits_cost`: A run costs what its first failing visit costs.
* `run_lazy`: Providers are evaluated for a report, and at most once.
-/

namespace Attest

/-- What a report leaves behind: the calls that were made before, those of evaluating the
    provider, and those of writing the report if the evaluation gave something to write it
    with. Something is raised in any case. -/
def Outcome.reported {α : Type} (before : List Event) (evaluated : Outcome Value)
    (report : Value → List Event × Raised) : Outcome α :=
  match evaluated.result with
  | .error raised => ⟨before ++ evaluated.trace, .error raised⟩
  | .ok w => ⟨before ++ evaluated.trace ++ (report w).1, .error (report w).2⟩

/-- How a computation may use the provider that it is offered: not at all, or once and at its
    end, for a report. All else is the same for every provider. -/
inductive Check.IsLazy {α : Type} (factory : ErrorFactory) (x : Option Provider → Check α) : Prop
  /-- It gives a value, and the provider is not evaluated. -/
  | gives (trace : List Event) (a : α) (h : ∀ p, x p factory = ⟨trace, .ok a⟩)
  /-- It raises something that the provider has no part in. -/
  | raises (trace : List Event) (raised : Raised) (h : ∀ p, x p factory = ⟨trace, .error raised⟩)
  /-- It reports, with what one evaluation of the provider gives. -/
  | reports (before : List Event) (report : Value → List Event × Raised)
      (h : ∀ p, x p factory = Outcome.reported before (Provider.evaluate p factory) report)

namespace Check

variable {α β : Type} {factory : ErrorFactory}

theorem isLazy_const (x : Check α) : IsLazy factory fun _ => x := by
  rcases hx : x factory with ⟨trace, raised | a⟩
  · exact IsLazy.raises trace raised fun _ => hx
  · exact IsLazy.gives trace a fun _ => hx

/-- What evaluates its provider for a failure does so once. -/
theorem isLazy_fail (write : Value → Check Value) :
    IsLazy factory fun p => (fail (Provider.evaluate p >>= write) [] : Check α) := by
  have hreport : ∀ w, ∃ report : List Event × Raised,
      (fail (write w) [] : Check α) factory = ⟨report.1, .error report.2⟩ := by
    intro w
    rcases fail_raises (α := α) (write w) [] factory with ⟨raised, hraised⟩
    refine ⟨⟨((fail (write w) [] : Check α) factory).trace, raised⟩, ?_⟩
    rw [← hraised]
  rcases Classical.axiomOfChoice hreport with ⟨report, hreport⟩
  refine IsLazy.reports [] report fun p => ?_
  have hsplit : (fail (Provider.evaluate p >>= write) [] : Check α) =
      (Provider.evaluate p >>= fun w => fail (write w) []) := bind_assoc _ _ _
  rw [hsplit]
  rcases hp : Provider.evaluate p factory with ⟨trace, raised | w⟩
  · rw [bind_apply_error hp]
    rfl
  · rw [bind_apply_ok hp, hreport]
    rfl

/-- A sequence of lazy computations is lazy. After a report nothing follows. -/
theorem IsLazy.bind {x : Option Provider → Check α} {f : α → Option Provider → Check β}
    (hx : IsLazy factory x) (hf : ∀ a, IsLazy factory (f a)) :
    IsLazy factory fun p => x p >>= fun a => f a p := by
  rcases hx with ⟨trace, a, hx⟩ | ⟨trace, raised, hx⟩ | ⟨before, report, hx⟩
  · -- The first part makes the same calls for every provider, so they only go in front.
    rcases hf a with ⟨rest, b, hb⟩ | ⟨rest, raised, hb⟩ | ⟨before, report, hb⟩
    · refine IsLazy.gives (trace ++ rest) b fun p => ?_
      rw [bind_apply_ok (hx p), hb p]
    · refine IsLazy.raises (trace ++ rest) raised fun p => ?_
      rw [bind_apply_ok (hx p), hb p]
    · refine IsLazy.reports (trace ++ before) report fun p => ?_
      rw [bind_apply_ok (hx p), hb p]
      unfold Outcome.reported
      rcases (Provider.evaluate p factory).result with raised | w
      · simp only [List.append_assoc]
      · simp only [List.append_assoc]
  · exact IsLazy.raises trace raised fun p => bind_apply_error (hx p) _
  · -- The first part has used the provider and raised, so the second one is not reached.
    refine IsLazy.reports before report fun p => ?_
    have hp := hx p
    unfold Outcome.reported at hp ⊢
    rcases hw : (Provider.evaluate p factory).result with raised | w
    · rw [hw] at hp
      exact bind_apply_error hp _
    · rw [hw] at hp
      exact bind_apply_error hp _

end Check

theorem isLazy_compositional (factory : ErrorFactory) :
    Compositional fun {_} x => Check.IsLazy factory x where
  value a := Check.isLazy_const (pure a)
  fault f := Check.isLazy_const (Check.raise (.fault f))
  bind hx hf := hx.bind hf

namespace Context

/-- The context at the end of a path that starts from a provider. -/
def along (path : List Step) (provider : Option Provider) : Context :=
  path.foldl Step.extend (.root provider)

/-- A failure whose text begins with the one of its place evaluates the provider once. -/
theorem failText_isLazy {α : Type} (factory : ErrorFactory) (path : List Step)
    (write : String → Check String) :
    Check.IsLazy factory fun p => (Check.failText ((along path p).text >>= write) : Check α) := by
  have hlazy : Check.IsLazy factory fun p => (Check.fail (Provider.evaluate p >>= fun w =>
      Check.ofExcept (renderAlong path w) >>= fun place =>
        write place >>= fun s => pure (.text s)) [] : Check α) :=
    Check.isLazy_fail _
  simpa only [Check.failText, along, text_along, bind_assoc] using hlazy

theorem isLazy_reporting (factory : ErrorFactory) (path : List Step) :
    Reporting (fun {_} x => Check.IsLazy factory x) (along path) where
  text write := failText_isLazy factory path fun s => Check.ofExcept (write s)
  explain message v := by
    unfold explain
    simp only [along, evaluate_along, bind_assoc]
    exact Check.isLazy_fail _

end Context

namespace Assertion

theorem IsLocal.fits_isLazy {a : Assertion} (ha : a.IsLocal) (factory : ErrorFactory)
    (path : List Step) : a.Fits (fun {_} x => Check.IsLazy factory x) (Context.along path) :=
  ha.fits (Context.isLazy_reporting factory path)
    (fun _ _ _ _ => ⟨Check.isLazy_const _, Context.failText_isLazy factory path _⟩)
    fun _ _ _ _ _ _ => Check.isLazy_const _

/-- A visit of a local tree is lazy. -/
theorem visit_isLazy {a : Assertion} (ha : a.Everywhere IsLocal) {position : Position} {v : Value}
    {visit : Visit} (hmem : visit ∈ a.visits position v) (factory : ErrorFactory) :
    Check.IsLazy factory fun p => visit.run (.root p) := by
  rcases visits_stem_local ha position v visit hmem with ⟨hown, hinspection⟩
  rcases visit with ⟨inspection, w, own, path⟩
  simp only at hown hinspection
  subst hown
  have hfits : inspection.Fits (fun {_} x => Check.IsLazy factory x) (Context.along path) := by
    rcases hinspection with ⟨node, position, hnode, rfl⟩ | ⟨field, key, rfl⟩
    · exact hnode.fits_isLazy factory path
    · trivial
  exact Inspection.run_compositional (isLazy_compositional factory)
    (Context.isLazy_reporting factory path) hfits w

/-- A run of a local tree is lazy. -/
theorem run_isLazy {a : Assertion} (ha : a.Everywhere IsLocal) (position : Position) (v : Value)
    (factory : ErrorFactory) : Check.IsLazy factory fun p => a.run position v (.root p) := by
  simp only [run_eq_runVisits]
  exact runVisits_compositional (isLazy_compositional factory) fun visit hmem =>
    visit_isLazy ha hmem factory

end Assertion

/-- Whether a lazy computation passes does not depend on the provider. -/
theorem Check.IsLazy.passes_iff {factory : ErrorFactory} {x : Option Provider → Check Unit}
    (hx : Check.IsLazy factory x) (p q : Option Provider) :
    (x p factory).result = .ok () ↔ (x q factory).result = .ok () := by
  rcases hx with ⟨trace, a, h⟩ | ⟨trace, raised, h⟩ | ⟨before, report, h⟩
  · rw [h p, h q]
  · rw [h p, h q]
  · -- A report raises for every provider, so neither run passes.
    have hraises : ∀ r, (x r factory).result ≠ .ok () := by
      intro r
      rw [h r]
      unfold Outcome.reported
      rcases (Provider.evaluate r factory).result with raised | w
      · simp only [ne_eq, reduceCtorEq, not_false_eq_true]
      · simp only [ne_eq, reduceCtorEq, not_false_eq_true]
    exact ⟨fun hp => absurd hp (hraises p), fun hq => absurd hq (hraises q)⟩

namespace Check

variable {α β : Type} {factory : ErrorFactory} {kind : Event → Bool}

/-- What is offered a provider costs nothing if it gives a value, and otherwise no more than one
    evaluation of the provider. -/
def PaysLate (factory : ErrorFactory) (kind : Event → Bool) (x : Option Provider → Check α) :
    Prop :=
  ∀ p, (∀ a, (x p factory).result = .ok a → (x p).cost factory kind = 0) ∧
    (x p).cost factory kind ≤ (Provider.evaluate p).cost factory kind

theorem paysLate_of_free {x : Check α} (h : x.cost factory kind = 0) :
    PaysLate factory kind fun _ => x :=
  fun _ => ⟨fun _ _ => h, h ▸ Nat.zero_le _⟩

theorem PaysLate.bind {x : Option Provider → Check α} {f : α → Option Provider → Check β}
    (hx : PaysLate factory kind x) (hf : ∀ a, PaysLate factory kind (f a)) :
    PaysLate factory kind fun p => x p >>= fun a => f a p := by
  intro p
  rcases hx p with ⟨hfree, hle⟩
  simp only [cost_bind, result_bind]
  rcases hresult : (x p factory).result with raised | a
  · refine ⟨fun b hb => absurd hb (by simp only [reduceCtorEq, not_false_eq_true]), ?_⟩
    simp only
    omega
  · -- What came first was free, so there is a whole evaluation left for what follows.
    have hzero := hfree a hresult
    rcases hf a p with ⟨hrest, hrestLe⟩
    refine ⟨fun b hb => ?_, ?_⟩
    · have := hrest b hb
      simp only
      omega
    · simp only
      omega

end Check

theorem paysLate_compositional (factory : ErrorFactory) (kind : Event → Bool) :
    Compositional fun {_} x => Check.PaysLate factory kind x where
  value a := Check.paysLate_of_free (Check.cost_pure factory kind a)
  fault f := Check.paysLate_of_free (Check.cost_raise factory kind (.fault f))
  bind hx hf := hx.bind hf

namespace Context

variable (factory : ErrorFactory) (kind : Event → Bool) (path : List Step)

/-- To write a place costs one evaluation of the provider at its start. -/
theorem cost_text (p : Option Provider) :
    (along path p).text.cost factory kind = (Provider.evaluate p).cost factory kind := by
  rw [along, text_along, Check.cost_bind_ofExcept]

theorem cost_explain_le (message : String) (v : Value) (p : Option Provider) :
    ((along path p).explain message v).cost factory kind ≤
      (Provider.evaluate p).cost factory kind := by
  have hplace : (along path p).evaluate.cost factory kind =
      (Provider.evaluate p).cost factory kind := by
    rw [along, evaluate_along, Check.cost_bind_ofExcept]
  rw [← hplace]
  refine Nat.le_of_eq (Check.cost_bind_of_free factory kind fun place => ?_)
  cases place with
  | exception id kind arguments => rfl
  | _ => exact Check.cost_ofExcept_bind_pure factory kind _ _

theorem paysLate_reporting :
    Reporting (fun {_} x => Check.PaysLate factory kind x) (along path) where
  text write := by
    intro p
    refine ⟨fun a ha => absurd ha (Check.fail_ne_ok _ _ _ _), ?_⟩
    exact Nat.le_of_eq (by rw [Check.cost_failText, Check.cost_bind_ofExcept, cost_text])
  explain message v := by
    intro p
    refine ⟨fun a ha => absurd ha (Check.fail_ne_ok _ _ _ _), ?_⟩
    rw [Check.cost_fail]
    exact cost_explain_le factory kind path message v p

end Context

namespace Assertion

variable {factory : ErrorFactory} {kind : Event → Bool}

/-- The functions that the own check of a node calls leave no event of a kind. -/
def IsQuiet (factory : ErrorFactory) (kind : Event → Bool) : Assertion → Prop
  | test predicate _ => ∀ v, (predicate v).cost factory kind = 0
  | array _ rules => ∀ identity, rules.identity = some identity →
      ∀ v, (identity v).cost factory kind = 0
  | _ => True

/-- A predicate is free, and its failure costs an evaluation of its message too. -/
theorem runTest_cost {predicate : Value → Check Value} {v : Value}
    (hpredicate : (predicate v).cost factory kind = 0) (message : Option Provider)
    (path : List Step) (p : Option Provider) :
    ((runTest predicate message v (Context.along path p) factory).result = .ok () →
        (runTest predicate message v (Context.along path p)).cost factory kind = 0) ∧
      ((runTest predicate message v (Context.along path p)).cost factory kind = 0 ∨
        ∃ answer, (predicate v factory).result = .ok answer ∧ answer.isTruthy = false ∧
          (runTest predicate message v (Context.along path p)).cost factory kind ≤
            (Provider.evaluate p).cost factory kind +
              (Provider.evaluate message).cost factory kind) := by
  rw [runTest_eq, Check.result_bind, Check.cost_bind, hpredicate]
  rcases hresult : (predicate v factory).result with raised | answer
  · exact ⟨fun _ => rfl, Or.inl rfl⟩
  · by_cases hanswer : answer.isTruthy = true
    · simp only [if_pos hanswer]
      exact ⟨fun _ => rfl, Or.inl rfl⟩
    · simp only [if_neg hanswer]
      refine ⟨fun hok => absurd hok (Check.fail_ne_ok _ _ _ _), Or.inr ⟨answer, rfl,
        Bool.eq_false_iff.mpr hanswer, ?_⟩⟩
      rw [Check.cost_failText, Nat.zero_add, ← Context.cost_text factory kind path p]
      refine Check.cost_bind_le factory kind fun place => ?_
      have hmessage : (Provider.message message).cost factory kind =
          (Provider.evaluate message).cost factory kind := Check.cost_bind_ofExcept factory kind _ _
      rw [← hmessage]
      refine Nat.le_of_eq (Check.cost_bind_of_free factory kind fun text => ?_)
      by_cases hempty : text = ""
      · simp only [if_pos hempty]
        exact Check.cost_ofExcept_bind_pure factory kind _ _
      · simp only [if_neg hempty]
        rfl

theorem IsLocal.fits_paysLate {a : Assertion} (ha : a.IsLocal) (hquiet : a.IsQuiet factory kind)
    (hnot : ∀ predicate message, a ≠ test predicate message) (path : List Step) :
    a.Fits (fun {_} x => Check.PaysLate factory kind x) (Context.along path) := by
  refine ha.fits (Context.paysLate_reporting factory kind path)
    (fun predicate message h => absurd h (hnot predicate message)) ?_
  intro element rules identity h hidentity v
  rw [h] at hquiet
  exact Check.paysLate_of_free (hquiet identity hidentity v)

end Assertion

/-- A visit asks a predicate, which answers with no and comes with a message. -/
def Visit.FailsTest (factory : ErrorFactory) (visit : Visit) (message : Option Provider) : Prop :=
  ∃ predicate position answer, visit.inspection = .node (.test predicate message) position ∧
    (predicate visit.value factory).result = .ok answer ∧ answer.isTruthy = false

namespace Assertion

variable {factory : ErrorFactory} {kind : Event → Bool}

/-- A visit that passes is free, and one that fails costs an evaluation of the provider, and of
    the message of its own predicate if it is this that failed. -/
theorem visit_cost {a : Assertion} (ha : a.Everywhere IsLocal)
    (hquiet : a.Everywhere (IsQuiet factory kind)) {position : Position} {v : Value} {visit : Visit}
    (hmem : visit ∈ a.visits position v) (p : Option Provider) :
    ((visit.run (.root p) factory).result = .ok () →
        (visit.run (.root p)).cost factory kind = 0) ∧
      ((visit.run (.root p)).cost factory kind ≤ (Provider.evaluate p).cost factory kind ∨
        ∃ message, visit.FailsTest factory message ∧ (visit.run (.root p)).cost factory kind ≤
          (Provider.evaluate p).cost factory kind +
            (Provider.evaluate message).cost factory kind) := by
  rcases visits_stem_local ha position v visit hmem with ⟨hown, hinspection⟩
  have hstem := visits_stem hquiet position v visit hmem
  rcases visit with ⟨inspection, w, own, path⟩
  simp only at hown hinspection hstem
  subst hown
  -- A predicate may evaluate its own message too, so it is not among the checks that pay late.
  by_cases htest :
      ∃ predicate message position, inspection = .node (test predicate message) position
  · rcases htest with ⟨predicate, message, position, rfl⟩
    rcases runTest_cost (hstem w) message path p with ⟨hfree, hzero | hfailed⟩
    · exact ⟨hfree, Or.inl (Nat.le_trans (Nat.le_of_eq hzero) (Nat.zero_le _))⟩
    · rcases hfailed with ⟨answer, hanswer, hno, hle⟩
      exact ⟨hfree, Or.inr ⟨message, ⟨predicate, position, answer, rfl, hanswer, hno⟩, hle⟩⟩
  · have hfits :
        inspection.Fits (fun {_} x => Check.PaysLate factory kind x) (Context.along path) := by
      rcases hinspection with ⟨node, position, hnode, rfl⟩ | ⟨field, key, rfl⟩
      · exact hnode.fits_paysLate hstem (fun predicate message h => htest ⟨predicate, message,
          position, by rw [h]⟩) path
      · trivial
    rcases Inspection.run_compositional (paysLate_compositional factory kind)
      (Context.paysLate_reporting factory kind path) hfits w p with ⟨hfree, hle⟩
    exact ⟨hfree (), Or.inl hle⟩

/-- A run of visits costs what its first failing visit costs, and nothing if all of them pass. -/
theorem runVisits_cost {visits : List Visit} {c : Context}
    (hfree : ∀ visit ∈ visits, (visit.run c factory).result = .ok () →
      (visit.run c).cost factory kind = 0) :
    ((runVisits visits c factory).result = .ok () ∧ (runVisits visits c).cost factory kind = 0) ∨
      ∃ visit ∈ visits, (runVisits visits c factory).result ≠ .ok () ∧
        (runVisits visits c).cost factory kind = (visit.run c).cost factory kind := by
  -- Visits in front of the failing one have passed, so all their calls are of other kinds.
  have hflat : ∀ list : List Visit, (∀ visit ∈ list, visit ∈ visits) →
      (∀ visit ∈ list, (visit.run c factory).result = .ok ()) →
        (list.flatMap fun visit => (visit.run c factory).trace).countP kind = 0 := by
    intro list hsub hpass
    rw [List.countP_eq_zero]
    intro event hevent
    rcases List.mem_flatMap.mp hevent with ⟨visit, hvisit, hevent⟩
    exact List.countP_eq_zero.mp (hfree visit (hsub visit hvisit) (hpass visit hvisit)) event hevent
  rcases runVisits_cases visits c factory with
    ⟨hall, hrun⟩ | ⟨before, visit, after, raised, hvisits, hbefore, hvisit, hrun⟩
  · refine Or.inl ⟨by rw [hrun], ?_⟩
    unfold Check.cost
    rw [hrun]
    exact hflat visits (fun _ h => h) hall
  · have hsub : ∀ earlier ∈ before, earlier ∈ visits := by
      intro earlier hearlier
      rw [hvisits]
      exact List.mem_append_left _ hearlier
    refine Or.inr ⟨visit, ?_, ?_, ?_⟩
    · rw [hvisits]
      exact List.mem_append_right _ List.mem_cons_self
    · rw [hrun]
      simp only [ne_eq, reduceCtorEq, not_false_eq_true]
    · unfold Check.cost
      rw [hrun, List.countP_append, hflat before hsub hbefore, Nat.zero_add]

/-- What a run does with the provider it starts from. It evaluates it not at all, or once and at
    the end, for a report, so whether the run passes does not depend on it. Counted in events of
    any kind that predicates and identities do not leave, a run that passes is free. One that
    fails costs no more than one evaluation of the provider, and one of a message that comes with
    a predicate, and the latter only if that predicate was asked and answered with no. -/
theorem run_lazy {a : Assertion} (ha : a.Everywhere IsLocal) (position : Position) (v : Value)
    (factory : ErrorFactory) :
    (Check.IsLazy factory fun p => a.run position v (.root p)) ∧
      (∀ p q, (a.run position v (.root p) factory).result = .ok () ↔
        (a.run position v (.root q) factory).result = .ok ()) ∧
      ∀ kind : Event → Bool, a.Everywhere (IsQuiet factory kind) → ∀ p,
        ((a.run position v (.root p) factory).result = .ok () →
            (a.run position v (.root p)).cost factory kind = 0) ∧
          ((a.run position v (.root p)).cost factory kind ≤
              (Provider.evaluate p).cost factory kind ∨
            ∃ visit ∈ a.visits position v, ∃ message, visit.FailsTest factory message ∧
              (a.run position v (.root p)).cost factory kind ≤
                (Provider.evaluate p).cost factory kind +
                  (Provider.evaluate message).cost factory kind) := by
  have hlazy := run_isLazy ha position v factory
  refine ⟨hlazy, hlazy.passes_iff, fun kind hquiet p => ?_⟩
  rw [run_eq_runVisits]
  rcases runVisits_cost fun visit hmem => (visit_cost ha hquiet hmem p).1 with
    ⟨_, hzero⟩ | ⟨visit, hmem, hfails, hcost⟩
  · exact ⟨fun _ => hzero, Or.inl (Nat.le_trans (Nat.le_of_eq hzero) (Nat.zero_le _))⟩
  · refine ⟨fun hok => absurd hok hfails, ?_⟩
    rw [hcost]
    rcases (visit_cost ha hquiet hmem p).2 with hle | ⟨message, hfailed, hle⟩
    · exact Or.inl hle
    · exact Or.inr ⟨visit, hmem, message, hfailed, hle⟩

/-- A provider whose evaluation can be observed. -/
def observed (name : String) : Provider :=
  .deferred (Check.record (.provided name) >>= fun _ => pure (.text name))

/-- An object whose label has to be a text. -/
def labelled : Assertion :=
  object (schema .dict [(.text "label", test (fun v => pure (.bool v.isText))
    (some (observed "no text")))]) none .lenient

/-- An object with a label. -/
def labelOf (v : Value) : Value :=
  .dict (.given 0) [(.text "label", v)]

/-- Whether an event is the evaluation of a provider. -/
def isEvaluation : Event → Bool
  | .provided _ => true
  | _ => false

theorem labelled_isLocal : labelled.Everywhere IsLocal := by
  refine ⟨rfl, ?_, trivial, trivial⟩
  intro field hfield
  rw [List.mem_singleton.mp hfield]
  rfl

theorem labelled_isQuiet : labelled.Everywhere (IsQuiet .standard isEvaluation) :=
  ⟨trivial, trivial, fun _ => rfl, trivial⟩

theorem run_lazy_labelled :
    (labelled.run .called (labelOf (.text "ann")) (.root (some (observed "start")))).cost .standard
        isEvaluation = 0 ∧
      (labelled.run .called (labelOf .null) (.root (some (observed "start"))) .standard).result ≠
        .ok () := by
  refine ⟨((run_lazy labelled_isLocal .called (labelOf (.text "ann")) .standard).2.2 isEvaluation
    labelled_isQuiet (some (observed "start"))).1 rfl, fun hpass => ?_⟩
  have hother := ((run_lazy labelled_isLocal .called (labelOf .null) .standard).2.1
    (some (observed "start")) none).mp hpass
  have hfails : (labelled.run .called (labelOf .null) (.root none) .standard).result =
      .error (.built .schemaError [.text ".label: no text"]) := rfl
  rw [hfails] at hother
  exact absurd hother (by simp only [reduceCtorEq, not_false_eq_true])

/-- A report evaluates the start and the message, each once. -/
example : (labelled.run .called (labelOf .null) (.root (some (observed "start")))).cost .standard
    isEvaluation = 2 :=
  rfl

end Assertion

end Attest
