import Attest.Proofs.Place
import Attest.Proofs.Writing

/-!
# Decisions

Checks that decide a question.

A check that decides a question passes if the answer is yes and raises if it is no.
`Decides` keeps both halves in one statement, because a run needs both at every step:
that a part passed says the question of that part was answered with yes, and it is only
then that the next part is asked.

What a refusal raises is not always the business of the factory. A provider may raise
instead of giving a message, or may give an exception of its own; and a report that cannot be
written leaves a fault of writing behind. So `Refuses` takes two conditions, which the run as a
whole fixes. Under the first one the providers it may meet answer, and then a refusal is
built from a text or is a fault of writing. Under the second one all that it may meet can be
written, and then it is no fault. Without any of them it still promises that something is
raised. In this way one induction over a tree gives what is accepted under every
context, what may be raised under an answering one, and what is reported for certain.

## Main definitions

* `Context.Answers`: A place gives something other than an exception.
* `Context.GivesWritable`: What a place gives can be written.
* `Context.Speaks`: A place gives something to put in front of a report, if it can be written.
* `Check.Refuses`: A check raises, and under a condition what the factory makes of a text.
* `Check.Decides`: A check passes if the answer is yes, and refuses if it is no.

## Theorems

* `pathText_written`: The steps of a path that can be written.
* `speaks_extend`: A place below one that speaks does so too.
* `failText_refuses`, `failAt_refuses`, `failUnder_refuses`, `failBehind_refuses`: A failure is a
  refusal.
* `Decides.andThen`: One decision and then another decide both questions.
-/

namespace Attest

/-- A provider gives something. -/
def Provider.Answers (factory : ErrorFactory) (provider : Option Provider) : Prop :=
  ∃ v, (Provider.evaluate provider factory).result = .ok v

/-- What a provider gives can be written. -/
def Provider.GivesWritable (factory : ErrorFactory) (provider : Option Provider) : Prop :=
  ∀ v, (Provider.evaluate provider factory).result = .ok v → v.IsWritable

namespace Step

/-- The key that a step goes to, if there is one, can be written. -/
def IsWritable : Step → Prop
  | field key | item key | keyOf key => key.IsWritable
  | element _ => True

theorem text_written {W : Prop} {step : Step} (h : W → step.IsWritable) : Written W step.text := by
  cases step with
  | element index => exact written_ok _
  | _ => exact (Value.plain_written h).map _

end Step

/-- The steps of a path can be written if each of them can. -/
theorem pathText_written (path : List Step) :
    Written (∀ step ∈ path, step.IsWritable) (pathText path) := by
  induction path with
  | nil => exact written_ok ""
  | cons step path ih =>
      exact (Step.text_written fun h => h step List.mem_cons_self).bind fun _ =>
        (ih.mono fun h => (List.forall_mem_cons.mp h).2).map _

namespace Context

/-- A place gives something other than an exception. -/
def Answers (factory : ErrorFactory) (c : Context) : Prop :=
  ∃ v, (c.evaluate factory).result = .ok v ∧ ∀ id kind arguments, v ≠ .exception id kind arguments

/-- What a place gives can be written. -/
def GivesWritable (factory : ErrorFactory) (c : Context) : Prop :=
  ∀ v, (c.evaluate factory).result = .ok v → v.IsWritable

/-- A place gives a message, unless it cannot be written. Under the condition it can. -/
structure Speaks (factory : ErrorFactory) (W : Prop) (c : Context) : Prop where
  /-- The place gives something, or cannot be written. -/
  tells : c.evaluate.Tells factory W
  /-- What it gives is no exception. -/
  isMessage : ∀ v, (c.evaluate factory).result = .ok v →
    ∀ id kind arguments, v ≠ .exception id kind arguments
  /-- What it gives can be written. -/
  isWritable : W → c.GivesWritable factory

variable {factory : ErrorFactory} {W : Prop} {c : Context}

theorem Answers.speaks (h : c.Answers factory) (hwritable : W → c.GivesWritable factory) :
    c.Speaks factory W := by
  rcases h with ⟨v, hv, hno⟩
  exact ⟨Check.tells_of_ok hv, fun w hw => Except.ok.inj (hv.symm.trans hw) ▸ hno, hwritable⟩

/-- The text of a place that speaks can be had, if what it gives can be written. -/
theorem Speaks.text (h : c.Speaks factory W) : c.text.Tells factory W := by
  cases c with
  | root provider =>
      exact h.tells.bind fun v hv => Check.ofExcept_tells (render_written fun hW =>
        h.isWritable hW v hv)
  | _ => exact h.tells.of_map

/-- A step below a place that speaks is written behind its text, and a text is no exception. -/
theorem speaks_extend (h : c.Speaks factory W) (step : Step) (hstep : W → step.IsWritable) :
    (step.extend c).Speaks factory W := by
  have htext : (step.extend c).text.Tells factory W := by
    rw [text_extend]
    exact h.text.bind fun _ _ => (Check.ofExcept_tells (Step.text_written hstep)).map _
  have hgives : ∀ v, ((step.extend c).evaluate factory).result = .ok v →
      ∃ s : String, v = .text s := by
    intro v hv
    rw [evaluate_extend] at hv
    rcases Check.bind_ok_iff.mp hv with ⟨s, -, hs⟩
    exact ⟨s, (Except.ok.inj hs).symm⟩
  refine ⟨?_, fun v hv => ?_, fun _ v hv => ?_⟩
  · rw [evaluate_extend]
    exact htext.map _
  · rcases hgives v hv with ⟨s, rfl⟩
    simp only [ne_eq, reduceCtorEq, not_false_eq_true, implies_true]
  · rcases hgives v hv with ⟨s, rfl⟩
    exact trivial

end Context

namespace Check

/-- A check raises something. Under a condition it is what the factory makes of a text, or a fault
    of writing, and under a second one it is not the latter. -/
def Refuses {α : Type} (factory : ErrorFactory) (H W : Prop) (x : Check α) : Prop :=
  ∃ raised, (x factory).result = .error raised ∧
    (H → (∃ message : String, raised = factory message []) ∨
      (¬W ∧ ∃ f : Fault, f.IsUnwritable ∧ raised = .fault f))

/-- A check passes if the answer to a question is yes, and refuses if it is no. -/
def Decides (factory : ErrorFactory) (H W : Prop) (x : Check Unit) (p : Prop) : Prop :=
  (p ∧ (x factory).result = .ok ()) ∨ (¬p ∧ x.Refuses factory H W)

section

variable {α β : Type} {factory : ErrorFactory} {H W : Prop}

theorem Refuses.bind {x : Check α} (h : x.Refuses factory H W) (f : α → Check β) :
    (x >>= f).Refuses factory H W := by
  rcases h with ⟨raised, hraised, hbuilt⟩
  refine ⟨raised, ?_, hbuilt⟩
  rw [result_bind, hraised]

/-- What follows a first part that ended with a value refuses, so the sequence does. -/
theorem refuses_of_ok {x : Check α} {a : α} (hx : (x factory).result = .ok a) {f : α → Check β}
    (h : (f a).Refuses factory H W) : (x >>= f).Refuses factory H W := by
  rcases h with ⟨raised, hraised, hbuilt⟩
  refine ⟨raised, ?_, hbuilt⟩
  rw [result_bind, hx]
  exact hraised

/-- To fail with what an evaluation gives is to refuse, if it gives no exception. -/
theorem fail_refuses {error : Check Value} (h : H → error.Tells factory W)
    (htext : H → ∀ v, (error factory).result = .ok v → ∃ s : String, v = .text s) :
    (fail error [] : Check α).Refuses factory H W := by
  rcases fail_raises (α := α) error [] factory with ⟨raised, hraised⟩
  refine ⟨raised, hraised, fun hH => ?_⟩
  rw [fail, result_bind] at hraised
  rcases h hH with ⟨v, hv⟩ | ⟨hW, f, hf, herror⟩
  · rcases htext hH v hv with ⟨s, rfl⟩
    rw [hv] at hraised
    have hbuilt :
        raised = factory (if (Value.text s).isTruthy then .text s else defaultMessage) [] :=
      (Except.error.inj hraised).symm
    by_cases hempty : (Value.text s).isTruthy = true
    · exact Or.inl ⟨s, by rw [hbuilt, if_pos hempty]⟩
    · exact Or.inl ⟨"Assertion error", by rw [hbuilt, if_neg hempty]; rfl⟩
  · rw [herror] at hraised
    exact Or.inr ⟨hW, f, hf, (Except.error.inj hraised).symm⟩

theorem failText_refuses {message : Check String} (h : H → message.Tells factory W) :
    (failText message : Check α).Refuses factory H W := by
  refine fail_refuses (fun hH => (h hH).map Value.text) fun _ v hv => ?_
  rcases bind_ok_iff.mp hv with ⟨s, -, hs⟩
  exact ⟨s, (Except.ok.inj hs).symm⟩

theorem Decides.passes_iff {x : Check Unit} {p : Prop} (h : x.Decides factory H W p) :
    (x factory).result = .ok () ↔ p := by
  rcases h with ⟨hp, hx⟩ | ⟨hp, raised, hx, _⟩
  · exact ⟨fun _ => hp, fun _ => hx⟩
  · refine ⟨fun hok => ?_, fun hyes => absurd hyes hp⟩
    rw [hx] at hok
    exact absurd hok (by simp only [reduceCtorEq, not_false_eq_true])

theorem Decides.congr {x : Check Unit} {p q : Prop} (h : x.Decides factory H W p) (hpq : p ↔ q) :
    x.Decides factory H W q := by
  rwa [← hpq]

/-- One question is decided at once, if its answer is known to be yes. -/
theorem decides_of_yes {p : Prop} (hp : p) : (pure () : Check Unit).Decides factory H W p :=
  Or.inl ⟨hp, rfl⟩

/-- A first part that ends with a value leaves the decision to the rest. -/
theorem decides_of_ok {x : Check α} {a : α} (hx : (x factory).result = .ok a) {f : α → Check Unit}
    {p : Prop} (h : (f a).Decides factory H W p) : (x >>= f).Decides factory H W p := by
  rcases h with ⟨hp, hpass⟩ | ⟨hp, hrefuses⟩
  · exact Or.inl ⟨hp, bind_ok_iff.mpr ⟨a, hx, hpass⟩⟩
  · exact Or.inr ⟨hp, refuses_of_ok hx hrefuses⟩

/-- One decision and then another decide both questions. The second one is asked only if the
    answer to the first one was yes. -/
theorem Decides.andThen {x y : Check Unit} {p q : Prop} (hx : x.Decides factory H W p)
    (hy : p → y.Decides factory H W q) : (x >>= fun _ => y).Decides factory H W (p ∧ q) := by
  rcases hx with ⟨hp, hpass⟩ | ⟨hp, hrefuses⟩
  · exact decides_of_ok hpass ((hy hp).congr ⟨fun hq => ⟨hp, hq⟩, And.right⟩)
  · exact Or.inr ⟨fun h => hp h.1, hrefuses.bind _⟩

end

end Check

namespace Context

variable {α : Type} {factory : ErrorFactory} {H W : Prop} {c : Context}
  {message : Except Fault String}

theorem failAt_refuses (hc : H → c.Speaks factory W) (hmessage : Written W message) :
    (c.failAt message : Check α).Refuses factory H W :=
  Check.failText_refuses fun hH =>
    (Check.ofExcept_tells hmessage).bind fun _ _ => (hc hH).text.map _

theorem failUnder_refuses (hc : H → c.Speaks factory W) (hmessage : Written W message) :
    (c.failUnder message : Check α).Refuses factory H W :=
  Check.failText_refuses fun hH =>
    (hc hH).text.bind fun _ _ => (Check.ofExcept_tells hmessage).map _

theorem failBehind_refuses (hc : H → c.Speaks factory W) (hmessage : Written W message) :
    (c.failBehind message : Check α).Refuses factory H W :=
  Check.failText_refuses fun hH =>
    (hc hH).text.bind fun _ _ => (Check.ofExcept_tells hmessage).map _

theorem explain_refuses (hc : H → c.Speaks factory W) (message : String) {v : Value}
    (hv : W → v.IsWritable) :
    (Check.fail (c.explain message v) [] : Check α).Refuses factory H W := by
  refine Check.fail_refuses (fun hH => ?_) fun hH w hw => ?_
  · refine (hc hH).tells.bind fun place hplace => ?_
    have hwritten : Written W (complaint place message v) :=
      complaint_written (fun hW => (hc hH).isWritable hW place hplace) hv message
    -- The place is no exception, so it is written in front of the message.
    cases place with
    | exception id kind arguments => exact absurd rfl ((hc hH).isMessage _ hplace id kind arguments)
    | _ => exact (Check.ofExcept_tells hwritten).map _
  · rcases Check.bind_ok_iff.mp hw with ⟨place, hplace, hcomplaint⟩
    cases place with
    | exception id kind arguments => exact absurd rfl ((hc hH).isMessage _ hplace id kind arguments)
    | _ =>
        rcases Check.bind_ok_iff.mp hcomplaint with ⟨s, -, hs⟩
        exact ⟨s, (Except.ok.inj hs).symm⟩

end Context

end Attest
