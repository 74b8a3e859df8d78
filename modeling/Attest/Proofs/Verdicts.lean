import Attest.Factory
import Attest.Proofs.Writing
import Attest.Verdict

/-!
# Verdicts and Checks

A verdict says what its check does.

Whoever asks for a verdict wants to know two things: whether the check passed, and what to
tell if it did not. So a verdict of nothing must mean that the check passed, and a message
should never look like nothing, whatever was raised and whoever built it. `Check.Agree` states
both for a check and an answering counterpart, together with the wording of the message, and
`validate_agrees` says that the four entry points and their counterparts agree.

The wording follows the arguments of what was raised and not its kind. An exception with a
single text says that text, even where the plain form of its kind would quote or hide it. The
quoted form steps in for an empty message. It names the kind and is not empty, with one
exception: a kind of the program's own may write itself as nothing at all. Nor can a message be
told whose form cannot be written. What was refused then still does not look as if it had passed,
because the verdict raises what is in the way.

## Main definitions

* `Raised.arguments`: What an exception that was raised holds.
* `Raised.ReportedAs`: The message that something raised is reported with.
* `Check.Agree`: A check and a check that answers instead of raising agree.

## Theorems

* `quoted_exception_eq_empty`: The exceptions whose quoted form is empty.
* `message_reportedAs`: The message of something raised is the one it is reported with.
* `verdict_agrees`: A check and its verdict agree.
* `validate_agrees`: The entry points and their verdicts agree.
-/

namespace Attest

namespace Value

/-- The quoted form of an exception that does not write itself names its kind, and then opens a
    parenthesis. So it is empty only if the exception writes nothing. -/
theorem quoted_exception_eq_empty {id : Identity} {kind : ExceptionKind} {arguments : List Value}
    (h : (exception id kind arguments).quoted = .ok "") : kind.ownQuoted = some (.text "") := by
  rcases hown : kind.ownQuoted with _ | written
  · rw [quoted_exception_of_none hown] at h
    refine absurd h (bind_ne_empty fun texts => ok_append_ne_empty (fun hempty => ?_) ")")
    have hopened := (String.append_eq_empty_iff.mp hempty).1
    exact absurd (String.append_eq_empty_iff.mp hopened).2 (by decide)
  · rw [quoted_exception_of_some hown] at h
    cases written with
    | text s => rw [Except.ok.inj h]
    | refused id kind arguments => exact absurd h (by simp only [Writing.form, reduceCtorEq,
        not_false_eq_true])

end Value

namespace Raised

/-- What an exception that was raised holds. -/
def arguments : Raised → List Value
  | given _ _ arguments | built _ arguments => arguments
  | fault f => f.arguments

/-- The message that something raised is reported with, or the fault of writing it: the text that
    it holds, if it holds nothing else, and its plain form otherwise. In both cases the quoted form
    takes the place of an empty message. -/
structure ReportedAs (raised : Raised) (message : Except Fault String) : Prop where
  /-- A single text is the message, unless it is empty. -/
  ofText : ∀ s : String, raised.arguments = [.text s] →
    message = if s = "" then raised.exception.quoted else .ok s
  /-- Anything else is reported in its plain form, unless that is empty. -/
  ofOther : (∀ s : String, raised.arguments ≠ [.text s]) → ∀ s, raised.exception.plain = .ok s →
    message = if s = "" then raised.exception.quoted else .ok s
  /-- If there is no plain form, there is no message. -/
  ofUnwritten : (∀ s : String, raised.arguments ≠ [.text s]) → ∀ f,
    raised.exception.plain = .error f → message = .error f
  /-- The message is not empty, unless the exception writes itself as nothing. -/
  isSaid : message = .ok "" → raised.kind.ownQuoted = some (.text "")
  /-- There is a message if the exception can be written, and else a fault of writing. -/
  isWritten : Written raised.exception.IsWritable message

theorem exception_eq (raised : Raised) :
    ∃ id, raised.exception = .exception id raised.kind raised.arguments := by
  cases raised with
  | given id kind arguments => exact ⟨id, rfl⟩
  | built kind arguments => exact ⟨.converted, rfl⟩
  | fault f =>
      cases f with
      | unwritable id kind arguments => exact ⟨id, rfl⟩
      | _ => exact ⟨.converted, rfl⟩

end Raised

section Messages

variable {id : Identity} {kind : ExceptionKind} {arguments : List Value}

theorem messageOf_text (s : String) :
    messageOf (.exception id kind [.text s]) =
      if s = "" then (Value.exception id kind [.text s]).quoted else .ok s :=
  rfl

theorem messageOf_other (h : ∀ s : String, arguments ≠ [.text s]) :
    messageOf (.exception id kind arguments) =
      ((Value.exception id kind arguments).plain >>= fun s =>
        if s = "" then (Value.exception id kind arguments).quoted else pure s) := by
  unfold messageOf
  split
  next hsingle =>
    rw [(Value.exception.inj hsingle).2.2] at h
    exact absurd rfl (h _)
  next => rfl

/-- A message is empty only if its exception writes nothing where the message gives way. -/
theorem messageOf_eq_empty (h : messageOf (.exception id kind arguments) = .ok "") :
    (Value.exception id kind arguments).quoted = .ok "" := by
  by_cases hsingle : ∃ s : String, arguments = [.text s]
  · rcases hsingle with ⟨s, rfl⟩
    rw [messageOf_text] at h
    by_cases hs : s = ""
    · rwa [if_pos hs] at h
    · rw [if_neg hs] at h
      exact absurd (Except.ok.inj h) hs
  · rw [messageOf_other fun s hs => hsingle ⟨s, hs⟩] at h
    rcases except_bind_ok_iff.mp h with ⟨s, -, hmessage⟩
    by_cases hs : s = ""
    · exact (if_pos hs).symm.trans hmessage
    · exact absurd (Except.ok.inj ((if_neg hs).symm.trans hmessage)) hs

theorem messageOf_written {W : Prop} (h : W → (Value.exception id kind arguments).IsWritable) :
    Written W (messageOf (.exception id kind arguments)) := by
  have hquoted : ∀ s : String,
      Written W (if s = "" then (Value.exception id kind arguments).quoted else .ok s) := by
    intro s
    split
    · exact Value.quoted_written h
    · exact written_ok s
  by_cases hsingle : ∃ s : String, arguments = [.text s]
  · rcases hsingle with ⟨s, rfl⟩
    exact hquoted s
  · rw [messageOf_other fun s hs => hsingle ⟨s, hs⟩]
    exact (Value.plain_written h).bind hquoted

end Messages

namespace Raised

theorem message_reportedAs (raised : Raised) : raised.ReportedAs raised.message := by
  rcases exception_eq raised with ⟨id, hexception⟩
  unfold message
  refine ⟨fun s hs => ?_, fun hother s hs => ?_, fun hother f hf => ?_, fun hempty => ?_, ?_⟩
  · rw [hexception, hs]
    exact messageOf_text s
  · rw [hexception] at hs ⊢
    rw [messageOf_other hother, hs]
    rfl
  · rw [hexception] at hf ⊢
    rw [messageOf_other hother, hf]
    rfl
  · rw [hexception] at hempty
    exact Value.quoted_exception_eq_empty (messageOf_eq_empty hempty)
  · rw [hexception]
    exact messageOf_written fun h => h

end Raised

/-- A check and a check that answers instead of raising agree, under a factory. -/
structure Check.Agree (factory : ErrorFactory) (x : Check Unit) (answer : Check (Option String)) :
    Prop where
  /-- They make the same calls. -/
  trace : (answer factory).trace = (x factory).trace
  /-- The answer is nothing if and only if the check passes. -/
  passes : (answer factory).result = .ok none ↔ (x factory).result = .ok ()
  /-- An ordinary error that the check raises is answered with its message. If that cannot be
      written, the answer raises the fault. -/
  reports : ∀ raised, (x factory).result = .error raised → raised.isOrdinary = true →
    ∃ message, raised.ReportedAs message ∧
      (∀ s, message = .ok s → (answer factory).result = .ok (some s)) ∧
      ∀ f, message = .error f → (answer factory).result = .error (.fault f)
  /-- Anything else that the check raises passes through. -/
  stops : ∀ raised, (x factory).result = .error raised → raised.isOrdinary = false →
    (answer factory).result = .error raised
  /-- A violation of which the factory makes an ordinary error that holds a text, and only this,
      is answered with the text. -/
  tells : ∀ (violation : Value) (extra : List Value) (kind : ExceptionKind) (s : String),
    factory violation extra = .built kind [.text s] → kind.isOrdinary = true → s ≠ "" →
      (x factory).result = .error (factory violation extra) →
        (answer factory).result = .ok (some s)

theorem verdict_ok {x : Check Unit} {factory : ErrorFactory} {trace : List Event}
    (h : x factory = ⟨trace, .ok ()⟩) : verdict x factory = ⟨trace, .ok none⟩ := by
  have hattempt : x.attempt factory = ⟨trace, .ok (.ok ())⟩ := by
    unfold Check.attempt
    rw [h]
  unfold verdict
  rw [Check.bind_apply_ok hattempt]
  simp only [Check.pure_apply, List.append_nil]

theorem verdict_error {x : Check Unit} {factory : ErrorFactory} {trace : List Event}
    {raised : Raised} (h : x factory = ⟨trace, .error raised⟩) :
    verdict x factory = ⟨trace, if raised.isOrdinary then
      ((some <$> Check.ofExcept raised.message : Check (Option String)) factory).result
      else .error raised⟩ := by
  have hattempt : x.attempt factory = ⟨trace, .ok (.error raised)⟩ := by
    unfold Check.attempt
    rw [h]
  unfold verdict
  rw [Check.bind_apply_ok hattempt]
  by_cases hordinary : raised.isOrdinary = true
  · -- To write a message leaves no call behind.
    have htrace : ((some <$> Check.ofExcept raised.message : Check (Option String)) factory).trace =
        [] := by
      cases raised.message <;> rfl
    simp only [hordinary, if_true, htrace, List.append_nil]
  · simp only [hordinary, Bool.false_eq_true, if_false, Check.raise, List.append_nil]

theorem verdict_agrees (x : Check Unit) (factory : ErrorFactory) :
    Check.Agree factory x (verdict x) := by
  rcases hx : x factory with ⟨trace, raised | ⟨⟩⟩
  · have hverdict := verdict_error hx
    have hsame : ∀ other, (x factory).result = .error other → other = raised := by
      intro other hother
      rw [hx] at hother
      exact (Except.error.inj hother).symm
    refine ⟨by rw [hverdict, hx], ?_, fun other hother hordinary => ?_,
      fun other hother hstop => ?_, fun violation extra kind s hbuilt hordinary hs hother => ?_⟩
    · rw [hverdict, hx]
      by_cases hordinary : raised.isOrdinary = true
      · rw [if_pos hordinary]
        cases raised.message with
        | ok s => exact ⟨nofun, nofun⟩
        | error f => exact ⟨nofun, nofun⟩
      · simp only [hordinary, Bool.false_eq_true, if_false, reduceCtorEq]
    · rw [hsame other hother] at hordinary ⊢
      refine ⟨raised.message, raised.message_reportedAs, fun s hs => ?_, fun f hf => ?_⟩
      · rw [hverdict, if_pos hordinary, hs]
        rfl
      · rw [hverdict, if_pos hordinary, hf]
        rfl
    · rw [hsame other hother] at hstop ⊢
      rw [hverdict, hstop]
      rfl
    · have hraised := hsame _ hother
      rw [hbuilt] at hraised
      rw [hverdict, ← hraised]
      have hmessage := (Raised.message_reportedAs (.built kind [.text s])).ofText s rfl
      rw [if_neg hs] at hmessage
      simp only [Raised.isOrdinary, Raised.kind, hordinary, if_true, hmessage]
      rfl
  · have hverdict := verdict_ok hx
    have hno : ∀ raised, (x factory).result ≠ .error raised := by
      intro raised
      rw [hx]
      simp only [ne_eq, reduceCtorEq, not_false_eq_true]
    refine ⟨by rw [hverdict, hx], ?_, fun raised hraised => absurd hraised (hno raised),
      fun raised hraised => absurd hraised (hno raised),
      fun _ _ _ _ _ _ _ hraised => absurd hraised (hno _)⟩
    rw [hverdict, hx]
    exact ⟨fun _ => rfl, fun _ => rfl⟩

/-- The entry points agree with their verdicts: on every value, under every factory, for every
    assertion with every rules, and whatever provider the context starts from. -/
theorem validate_agrees (factory : ErrorFactory) (a : Assertion) (v : Value) (c : Context)
    (ofObject : ObjectRules) (ofArray : ArrayRules) (ofRecord : RecordRules)
    (library : TableLibrary) (table : Tabular) :
    Check.Agree factory (assertObject a ofObject v c) (validateObject a ofObject v c) ∧
      Check.Agree factory (assertArray a ofArray v c) (validateArray a ofArray v c) ∧
      Check.Agree factory (assertRecord a ofRecord v c) (validateRecord a ofRecord v c) ∧
      Check.Agree factory (assertFrame library a ofArray table c)
        (validateFrame library a ofArray table c) :=
  ⟨verdict_agrees _ factory, verdict_agrees _ factory, verdict_agrees _ factory,
    verdict_agrees _ factory⟩

/-- A schema whose only field is checked by a function that raises an exception. -/
def raising (kind : ExceptionKind) (arguments : List Value) : Assertion :=
  .schema .dict [(.text "n", .callable ⟨.unnamed, .assertion, fun _ _ =>
    Check.raise (.given (.given 1) kind arguments)⟩)]

/-- An ordinary error that writes itself as nothing is answered with an empty message, and one about
    a key of too many digits is not answered at all. -/
theorem silent_error_unsaid :
    (validateObject (raising (.own "Silent" true (some (.text "")) (some (.text ""))) []) .lenient
        (.dict (.given 0) []) (.root none) .standard).result = .ok (some "") ∧
      (validateObject (raising .keyError [.overlong]) .lenient (.dict (.given 0) []) (.root none)
        .standard).result = .error (.fault .integerTooLong) := by
  refine ⟨rfl, ?_⟩
  have hraised : assertObject (raising .keyError [.overlong]) .lenient (.dict (.given 0) [])
      (.root none) .standard = ⟨[], .error (.given (.given 1) .keyError [.overlong])⟩ := rfl
  have hmessage : (Raised.given (.given 1) .keyError [.overlong]).message =
      .error .integerTooLong := by
    have hquoted : (Value.exception (.given 1) .keyError [.overlong]).plain =
        .error .integerTooLong := Value.quoted_overlong
    have hother : ∀ s : String, [Value.overlong] ≠ [.text s] := fun s h =>
      nomatch List.singleton_inj.mp h
    rw [Raised.message, Raised.exception, messageOf_other hother, hquoted]
    rfl
  rw [validateObject, verdict_error hraised, hmessage]
  rfl

/-- The text of a missing key is not quoted, and an error without a text is named by its kind. -/
example : messageOf (.exception .converted .keyError [.text "id"]) = .ok "id" ∧
    messageOf (.exception .converted .valueError [.text ""]) = .ok "ValueError('')" := by
  constructor <;> rfl

end Attest
