import Attest.Proofs.Compositional
import Attest.Proofs.Lengths
import Attest.Proofs.Misuse
import Attest.Proofs.PrimaryKey

/-!
# Complaints

What the checks of the library complain about, and what becomes of the place when they do.

A check that fails has either found something wrong with its value or met a fault, and what it
raises may or may not tell where the value stands. `Complains` and `FailsAtLeaf` list what is found
wrong: every complaint of a node, of a key and of a cross-field entry, with the condition that it is
made under. Most complaints read the place as text and put it in front of what they say. The
complaints of the primitive checks, and that what should be a text is none, evaluate the place
instead, and may find an exception there.

`reports_of_complains` goes through the list, and `steady_of_content` shows that nothing is missing
from it. A check that has nothing on the list, and that calls no function from outside as an
assertion, ends the same way at every place that can be written. What it raises, if it raises, was
raised by a predicate, by an identity, or by an operation that a value does not have.

The message of a predicate is one of the things that may go wrong on the way to a report. It is
asked behind the place, and if it raises, this is all that is left.

## Main definitions

* `RefusesName`: The first name that the rules of an object refuse.
* `Inspection.FailsAtLeaf`: A complaint that evaluates its place.
* `Inspection.Complains`: A complaint that reads its place as text.
* `Check.IsReport`: What the factory makes of a text with a certain opening, or a fault of writing.
* `Check.Reports`: A check reports with the text of its place in front.
* `Inspection.ReportsWritable`: What a check has to write for its reports can be written.
* `Check.IsSteady`: A check ends the same way at all places.
* `Assertion.IsUnbound`: A node without a place of its own.

## Theorems

* `refuseUnknown_cases`, `runNames_of_not_refused`: The ends of the check of names.
* `explains_of_failsAtLeaf`: A complaint at a leaf explains itself.
* `reports_of_complains`: Every other complaint reports.
* `steady_of_content`: A check without a complaint owes nothing to its place.
-/

namespace Attest

/-- The first name of an object's entries that its rules refuse, where a schema says which names it
    declares. -/
def RefusesName (declares : Value → Except Fault Bool) (rules : ObjectRules)
    (entries : List (Value × Value)) (name : Value) : Prop :=
  rules.isStrict = true ∧ ∃ allowed, rules.allowed.elements = .ok allowed ∧
    Value.allHashable allowed = .ok () ∧ ∃ front back, entries.map (·.1) = front ++ name :: back ∧
      (∀ known ∈ front, ∃ declared, declares known = .ok declared ∧
        (declared || allowed.any (Value.isSameKey · known)) = true) ∧
      declares name = .ok false ∧ allowed.any (Value.isSameKey · name) = false

/-- A name that is refused is one of the entries'. -/
theorem RefusesName.mem {declares : Value → Except Fault Bool} {rules : ObjectRules}
    {entries : List (Value × Value)} {name : Value} (h : RefusesName declares rules entries name) :
    ∃ item, (name, item) ∈ entries := by
  rcases h with ⟨_, _, _, _, front, back, hentries, _⟩
  have hmem : name ∈ entries.map (·.1) := hentries ▸ List.mem_append_right front List.mem_cons_self
  rcases List.mem_map.mp hmem with ⟨⟨_, item⟩, hentry, rfl⟩
  exact ⟨item, hentry⟩

namespace Inspection

/-- The library complains about a value at a leaf, and evaluates the context for it. -/
inductive FailsAtLeaf : Inspection → Value → Prop
  | primitive {p : Primitive} {position : Position} {v : Value} (h : p.holds v = false) :
      FailsAtLeaf (.node (.primitive p) position) v
  /-- What is to be a text within bounds is none. -/
  | text {bounds : Bounds} {position : Position} {v : Value} (h : v.isText = false) :
      FailsAtLeaf (.node (.boundedText bounds) position) v

/-- The library complains about a value, and reads the context as text for it. -/
inductive Complains (factory : ErrorFactory) : Inspection → Value → Prop
  /-- A predicate does not hold, and its message can be had. -/
  | predicate {ask : Value → Check Value} {message : Option Provider} {position : Position}
      {v answer : Value} (hanswer : (ask v factory).result = .ok answer)
      (hfalse : answer.isTruthy = false) (hmessage : Provider.Answers factory message) :
      Complains factory (.node (.test ask message) position) v
  | textLength {bounds : Bounds} {position : Position} {s : String} {broken : LengthFault}
      (h : bounds.judge s.length = .ok (some broken)) :
      Complains factory (.node (.boundedText bounds) position) (.text s)
  /-- What is to be an object is none, and possibly an array. -/
  | schemaShape {form : SchemaForm} {fields : List (Value × Assertion)} {position : Position}
      {v : Value} (hposition : position = .part ∨ position = .fallback)
      (hv : v.mapping? = none) : Complains factory (.node (.schema form fields) position) v
  | objectShape {inner : Assertion} {rules : ObjectRules} {position : Position} {v : Value}
      (hv : v.mapping? = none) : Complains factory (.node (.object inner none rules) position) v
  | unknownName {inner : Assertion} {rules : ObjectRules} {position : Position} {v name : Value}
      {entries : List (Value × Value)} (hv : v.mapping? = some entries)
      (h : RefusesName inner.declares rules entries name) :
      Complains factory (.node (.object inner none rules) position) v
  | arrayShape {element : Assertion} {rules : ArrayRules} {position : Position} {v : Value}
      (hv : v.array? = none) : Complains factory (.node (.array element rules) position) v
  | arrayLength {element : Assertion} {rules : ArrayRules} {position : Position} {v : Value}
      {items : List Value} {broken : LengthFault} (hv : v.array? = some items)
      (h : rules.bounds.judge items.length = .ok (some broken)) :
      Complains factory (.node (.array element rules) position) v
  /-- Two elements have the same identity. -/
  | repeated {element : Assertion} {rules : ArrayRules} {position : Position} {v : Value}
      {items : List Value} {identity : Value → Check Value} (hv : v.array? = some items)
      (hjudge : rules.bounds.judge items.length = .ok none)
      (hidentity : rules.identity = some identity)
      (h : (hasUniqueElements v identity factory).result = .ok false) :
      Complains factory (.node (.array element rules) position) v
  | recordShape {item : Assertion} {key crossField : Option Assertion} {keyField : Option String}
      {position : Position} {v : Value} (hv : v.mapping? = none) :
      Complains factory (.node (.record item key keyField crossField) position) v
  /-- A plain value stands in the place of an assertion. -/
  | nonassertion {v w : Value} (hw : w.asCallable? = none) :
      Complains factory (.node (.value w) .part) v
  /-- An item does not repeat its key. -/
  | keyField {field : String} {key item : Value} (hne : field ≠ "")
      (h : ¬ Assertion.RepeatsKey (some field) key item) :
      Complains factory (.keyField (some field) key) item
  /-- The cross-field entry of a schema is no function. -/
  | crossField {key v : Value} {a : Assertion} (hkey : Assertion.isCrossField key = .ok true)
      (ha : a.isCallable = false) : Complains factory (.crossField key a) v

end Inspection

namespace Check

variable {α β : Type} {factory : ErrorFactory}

/-- What a check ends with is a report: what the factory makes of a text with a certain opening, or
    else a fault of writing. Under the condition it is no fault. -/
def IsReport (factory : ErrorFactory) (W : Prop) (opening : Except Fault String)
    (result : Except Raised α) : Prop :=
  (∃ s rest, opening = .ok s ∧ result = .error (factory (.text (s ++ rest)) [])) ∨
    (¬W ∧ ∃ f : Fault, f.IsUnwritable ∧ result = .error (.fault f))

/-- A check reports: wherever it stands, what it ends with is a report with the text of the place in
    front, if the place can be written and, under the condition, what is reported. -/
def Reports (factory : ErrorFactory) (W : Prop) (x : Context → Check α) : Prop :=
  ∀ (V : Prop) (c : Context), c.text.Tells factory V →
    (∀ place, (c.text factory).result = .ok place → place ≠ "") →
    (∃ place rest, (c.text factory).result = .ok place ∧
      (x c factory).result = .error (factory (.text (place ++ rest)) [])) ∨
    (¬(V ∧ W) ∧ ∃ f : Fault, f.IsUnwritable ∧ (x c factory).result = .error (.fault f))

/-- A check ends the same way at all places, but for those that cannot be written, whose fault it
    may raise. -/
def IsSteady (factory : ErrorFactory) (x : Context → Check α) : Prop :=
  ∃ ending, ∀ c, (x c factory).result = ending ∨
    ∃ raised, (c.text factory).result = .error raised ∧ (x c factory).result = .error raised

theorem IsReport.mono {V W : Prop} {opening : Except Fault String} {result : Except Raised α}
    (h : IsReport factory W opening result) (hVW : V → W) : IsReport factory V opening result :=
  h.imp_right fun hno => ⟨fun hV => hno.1 (hVW hV), hno.2⟩

/-- A report is an error, and so it is a report wherever the error ends up. -/
theorem IsReport.of_raises {W : Prop} {opening : Except Fault String} {result : Except Raised α}
    {outcome : Except Raised β} (h : IsReport factory W opening result)
    (hraises : ∀ raised, result = .error raised → outcome = .error raised) :
    IsReport factory W opening outcome := by
  rcases h with ⟨s, rest, hs, hrest⟩ | ⟨hno, f, hf, hraised⟩
  · exact Or.inl ⟨s, rest, hs, hraises _ hrest⟩
  · exact Or.inr ⟨hno, f, hf, hraises _ hraised⟩

theorem Reports.bind {W : Prop} {x : Context → Check α} (h : Reports factory W x)
    (f : α → Context → Check β) : Reports factory W fun c => x c >>= fun a => f a c := by
  intro V c htext hne
  rcases h V c htext hne with ⟨place, rest, hplace, hrest⟩ | ⟨hno, fault, hfault, hraised⟩
  · exact Or.inl ⟨place, rest, hplace, by rw [result_bind, hrest]⟩
  · exact Or.inr ⟨hno, fault, hfault, by rw [result_bind, hraised]⟩

/-- What ends like a check that reports at every place does so too. -/
theorem Reports.of_result {W : Prop} {x y : Context → Check α} (h : Reports factory W y)
    (hsame : ∀ c, (x c factory).result = (y c factory).result) : Reports factory W x := by
  intro V c htext hne
  rw [hsame]
  exact h V c htext hne

/-- A failure with a text reports if the text opens with that of the place, and can be written
    where the place can. -/
theorem reports_failText {W : Prop} {text : Context → Check String}
    (htells : ∀ (V : Prop) (c : Context), c.text.Tells factory V → (text c).Tells factory (V ∧ W))
    (hopens : ∀ c s, (text c factory).result = .ok s →
      ∃ place, (c.text factory).result = .ok place ∧ (place ≠ "" → ∃ rest, s = place ++ rest)) :
    Reports factory W fun c => (failText (text c) : Check α) := by
  intro V c htext hne
  have htext_ne : ∀ s, (text c factory).result = .ok s → s ≠ "" := by
    intro s hs hempty
    rcases hopens c s hs with ⟨place, hplace, hrest⟩
    rcases hrest (hne place hplace) with ⟨rest, rfl⟩
    exact hne place hplace (String.append_eq_empty_iff.mp hempty).1
  have hraises := failText_raises (α := α) htext_ne
  rcases htells V c htext with ⟨s, hs⟩ | ⟨hno, fault, hfault, hraised⟩
  · rcases hopens c s hs with ⟨place, hplace, hrest⟩
    rcases hrest (hne place hplace) with ⟨rest, rfl⟩
    exact Or.inl ⟨place, rest, hplace, by rw [hraises, hs]⟩
  · exact Or.inr ⟨hno, fault, hfault, by rw [hraises, hraised]⟩

section Failures

variable {W : Prop} {x : Context → Check α} {message : Except Fault String}
  (hmessage : Written W message)

include hmessage

theorem reports_of_failAt (h : ∀ c, x c = c.failAt message) : Reports factory W x := by
  rw [funext h]
  refine reports_failText (fun V c htext => ?_) fun c s hs => ?_
  · exact (ofExcept_tells (hmessage.mono And.right)).bind fun _ _ => (htext.mono And.left).map _
  · rcases bind_ok_iff.mp hs with ⟨said, _, hs⟩
    rcases bind_ok_iff.mp hs with ⟨place, hplace, hs⟩
    refine ⟨place, hplace, fun hne => ⟨" " ++ said, ?_⟩⟩
    rw [← Except.ok.inj hs, Context.joined, if_neg hne, String.append_assoc]

theorem reports_of_failUnder (h : ∀ c, x c = c.failUnder message) : Reports factory W x := by
  rw [funext h]
  refine reports_failText (fun V c htext => ?_) fun c s hs => ?_
  · exact (htext.mono And.left).bind fun _ _ => (ofExcept_tells (hmessage.mono And.right)).map _
  · rcases bind_ok_iff.mp hs with ⟨place, hplace, hs⟩
    rcases bind_ok_iff.mp hs with ⟨said, _, hs⟩
    refine ⟨place, hplace, fun hne => ⟨" " ++ said, ?_⟩⟩
    rw [← Except.ok.inj hs, Context.joined, if_neg hne, String.append_assoc]

theorem reports_of_failBehind (h : ∀ c, x c = c.failBehind message) : Reports factory W x := by
  rw [funext h]
  refine reports_failText (fun V c htext => ?_) fun c s hs => ?_
  · exact (htext.mono And.left).bind fun _ _ => (ofExcept_tells (hmessage.mono And.right)).map _
  · rcases bind_ok_iff.mp hs with ⟨place, hplace, hs⟩
    rcases bind_ok_iff.mp hs with ⟨said, _, hs⟩
    exact ⟨place, hplace, fun _ => ⟨said, (Except.ok.inj hs).symm⟩⟩

end Failures

/-- A check that does not look at its place is steady. -/
theorem isSteady_of_const {x : Context → Check α} {y : Check α} (h : ∀ c, x c = y) :
    IsSteady factory x :=
  ⟨(y factory).result, fun c => Or.inl (by rw [h c])⟩

/-- A sequence is steady if its first part is, and the second one too where it is come to. -/
theorem isSteady_bind (x : Check α) {f : α → Context → Check β}
    (h : ∀ a, (x factory).result = .ok a → IsSteady factory (f a)) :
    IsSteady factory fun c => x >>= fun a => f a c := by
  rcases hx : (x factory).result with raised | a
  · exact ⟨.error raised, fun c => Or.inl (by rw [result_bind, hx])⟩
  · rcases h a hx with ⟨ending, hending⟩
    exact ⟨ending, fun c => by rw [result_bind, hx]; exact hending c⟩

end Check

namespace Assertion

variable {factory : ErrorFactory}

section Names

variable {declares : Value → Except Fault Bool} {allowed : List Value}

/-- The loop over names passes, or meets a fault, or refuses the first one that is neither declared
    nor allowed. The place is looked at in the last case only. -/
theorem refuseUnknown_cases (declares : Value → Except Fault Bool) (allowed names : List Value) :
    (∃ x, ∀ c, refuseUnknown declares allowed c names = x) ∨
    ∃ front name back, names = front ++ name :: back ∧
      (∀ known ∈ front, ∃ declared, declares known = .ok declared ∧
        (declared || allowed.any (Value.isSameKey · known)) = true) ∧
      declares name = .ok false ∧ allowed.any (Value.isSameKey · name) = false := by
  induction names with
  | nil => exact Or.inl ⟨pure (), fun _ => rfl⟩
  | cons name names ih =>
      rcases hname : declares name with fault | declared
      · exact Or.inl ⟨Check.raise (.fault fault), fun c => by
          simp only [refuseUnknown, hname, Check.ofExcept_error, Check.raise_bind]⟩
      · by_cases hknown : (declared || allowed.any (Value.isSameKey · name)) = true
        · -- A known name leaves the outcome to those behind it, and joins the front.
          rcases ih with ⟨x, hx⟩ | ⟨front, first, back, rfl, hfront, hfirst⟩
          · exact Or.inl ⟨x, fun c => by
              simp only [refuseUnknown, hname, Check.ofExcept_ok, pure_bind, hknown, if_true, hx]⟩
          · exact Or.inr ⟨name :: front, first, back, rfl,
              List.forall_mem_cons.mpr ⟨⟨declared, hname, hknown⟩, hfront⟩, hfirst⟩
        · rcases Bool.or_eq_false_iff.mp (Bool.eq_false_iff.mpr hknown) with ⟨hdeclared, hallowed⟩
          exact Or.inr ⟨[], name, names, rfl, fun _ hmem => absurd hmem List.not_mem_nil,
            hdeclared ▸ hname, hallowed⟩

theorem refuseUnknown_of_first {front back : List Value} {name : Value} (c : Context)
    (hfront : ∀ known ∈ front, ∃ declared, declares known = .ok declared ∧
      (declared || allowed.any (Value.isSameKey · known)) = true)
    (hname : declares name = .ok false) (hallowed : allowed.any (Value.isSameKey · name) = false) :
    refuseUnknown declares allowed c (front ++ name :: back) =
      c.failAt (nameComplaint name) := by
  induction front with
  | nil => simp only [List.nil_append, refuseUnknown, hname, hallowed, Check.ofExcept_ok, pure_bind,
      Bool.or_self, Bool.false_eq_true, if_false]
  | cons known front ih =>
      rcases List.forall_mem_cons.mp hfront with ⟨⟨declared, hdeclared, hknown⟩, hfront⟩
      simp only [List.cons_append, refuseUnknown, hdeclared, Check.ofExcept_ok, pure_bind, hknown,
        if_true]
      exact ih hfront

theorem runNames_of_refused {rules : ObjectRules} {entries : List (Value × Value)} {name : Value}
    (h : RefusesName declares rules entries name) (c : Context) :
    runNames declares rules entries c =
      c.failAt (nameComplaint name) := by
  rcases h with ⟨hstrict, allowed, hallowed, hkeys, front, back, hentries, hfront, hname, hunknown⟩
  simp only [runNames, hstrict, if_true, hallowed, hkeys, Check.ofExcept_ok, pure_bind, hentries]
  exact refuseUnknown_of_first c hfront hname hunknown

/-- If no name is refused, the check of the names does not look at its place. -/
theorem runNames_of_not_refused {rules : ObjectRules} {entries : List (Value × Value)}
    (h : ¬ ∃ name, RefusesName declares rules entries name) :
    ∃ x, ∀ c, runNames declares rules entries c = x := by
  by_cases hstrict : rules.isStrict = true
  · rcases hallowed : rules.allowed.elements with fault | allowed
    · exact ⟨Check.raise (.fault fault), fun c => by
        simp only [runNames, hstrict, if_true, hallowed, Check.ofExcept_error, Check.raise_bind]⟩
    · rcases hkeys : Value.allHashable allowed with fault | ⟨⟩
      · exact ⟨Check.raise (.fault fault), fun c => by
          simp only [runNames, hstrict, if_true, hallowed, hkeys, Check.ofExcept_ok, pure_bind,
            Check.ofExcept_error, Check.raise_bind]⟩
      · rcases refuseUnknown_cases declares allowed (entries.map (·.1)) with
          ⟨x, hx⟩ | ⟨front, name, back, hentries, hfront, hname, hunknown⟩
        · exact ⟨x, fun c => by
            simp only [runNames, hstrict, if_true, hallowed, hkeys, Check.ofExcept_ok, pure_bind,
              hx]⟩
        · exact absurd ⟨name, hstrict, allowed, hallowed, hkeys, front, back, hentries, hfront,
            hname, hunknown⟩ h
  · exact ⟨pure (), fun c => by simp only [runNames, hstrict, Bool.false_eq_true, if_false]⟩

end Names

theorem reports_objectEntries (W : Prop) {v : Value} (hv : v.mapping? = none) :
    Check.Reports factory W (objectEntries v) := by
  rcases objectEntries_of_not_mapping hv with ⟨message, hrefused⟩
  exact Check.reports_of_failAt (written_ok message) hrefused

theorem reports_recordEntries {W : Prop} {v : Value} (hwritable : W → v.IsWritable)
    (hv : v.mapping? = none) : Check.Reports factory W (recordEntries v) :=
  Check.reports_of_failUnder (recordComplaint_written hwritable) (recordEntries_of_not_mapping hv)

/-- What the failure of a predicate says begins with the place, if the message of the predicate can
    be had. -/
theorem reports_testReport {W : Prop} {message : Option Provider}
    (hmessage : Provider.Answers factory message)
    (hwritable : W → Provider.GivesWritable factory message) {v : Value} (hv : W → v.IsWritable) :
    Check.Reports factory W fun c =>
      (Check.failText (testReport message v c) : Check Unit) := by
  refine Check.reports_failText (fun V c htext => ?_) fun c s hs => ?_
  · refine (htext.mono And.left).bind fun _ _ => ?_
    refine (message_tells hmessage fun hVW => hwritable hVW.2).bind fun text _ => ?_
    by_cases hempty : text = ""
    · simp only [if_pos hempty]
      exact (Check.ofExcept_tells (checkedForm_written fun hVW => hv hVW.2)).map _
    · simp only [if_neg hempty]
      exact Check.tells_of_ok rfl
  · rcases Check.bind_ok_iff.mp hs with ⟨place, hplace, hs⟩
    rcases Check.bind_ok_iff.mp hs with ⟨text, _, hs⟩
    refine ⟨place, hplace, fun hne => ?_⟩
    -- Whether the message is empty decides on what stands behind the place, and on nothing else.
    have hform : ∃ form, s = (if place.toList.getLast? = some ':' then place else place ++ ":") ++
        " " ++ form := by
      by_cases hempty : text = ""
      · simp only [if_pos hempty] at hs
        rcases Check.bind_ok_iff.mp hs with ⟨form, _, hs⟩
        exact ⟨form, by rw [← Except.ok.inj hs, if_neg hne]⟩
      · simp only [if_neg hempty] at hs
        exact ⟨text, by rw [← Except.ok.inj hs, if_neg hne]⟩
    rcases hform with ⟨form, rfl⟩
    by_cases hcolon : place.toList.getLast? = some ':'
    · simp only [hcolon, if_true, String.append_assoc]
      exact ⟨_, rfl⟩
    · simp only [hcolon, if_false, String.append_assoc]
      exact ⟨_, rfl⟩

/-- The message of a predicate is asked behind the place. If it raises, that is all there is. -/
theorem testReport_of_message_raises {message : Option Provider} {raised : Raised}
    (hmessage : (Provider.evaluate message factory).result = .error raised) (v : Value)
    (c : Context) :
    ((Check.failText (testReport message v c) : Check Unit) factory).result = .error raised ∨
      ∃ other, (c.text factory).result = .error other ∧
        ((Check.failText (testReport message v c) : Check Unit) factory).result = .error other := by
  have hreport : ∀ {other}, (testReport message v c factory).result = .error other →
      ((Check.failText (testReport message v c) : Check Unit) factory).result = .error other := by
    intro other hother
    rw [Check.failText_raises, hother]
    intro s hs
    exact absurd (hother.symm.trans hs) (by simp only [reduceCtorEq, not_false_eq_true])
  rcases hplace : (c.text factory).result with other | place
  · refine Or.inr ⟨other, rfl, hreport ?_⟩
    simp only [testReport, Check.result_bind, hplace]
  · refine Or.inl (hreport ?_)
    simp only [testReport, Provider.message, Check.result_bind, hplace, hmessage]

/-- What is to be an object is asked for its shape and then for its names, and if it is checked
    against something else than a schema, there is a fault behind it. -/
theorem exists_inspect_object (inner : Assertion) (rules : ObjectRules) (position : Position)
    (v : Value) : ∃ last : Check Unit, ∀ c, (object inner none rules).inspect position v c =
      ((objectEntries v c >>= fun entries => runNames inner.declares rules entries c) >>=
        fun _ => last) := by
  cases inner with
  | schema => exact ⟨pure (), fun c => (bind_pure _).symm⟩
  -- What else may stand there is refused behind the names, where the place is no longer read.
  | _ => exact ⟨Check.raise (.fault (notSchema _)), fun c => by rw [bind_assoc]; rfl⟩

/-- A node without a place of its own. -/
def IsUnbound : Assertion → Prop
  | object _ own _ => own = none
  | _ => True

end Assertion

namespace Inspection

variable {factory : ErrorFactory} {inspection : Inspection} {v : Value}

/-- A complaint at a leaf explains itself, which is to evaluate the context. -/
theorem explains_of_failsAtLeaf (h : inspection.FailsAtLeaf v) :
    ∃ message, ∀ c, inspection.run v c = Check.fail (c.explain message v) [] := by
  cases h with
  | @primitive p _ _ h =>
      refine ⟨p.complaint v, fun c => ?_⟩
      simp only [run, Assertion.inspect, Primitive.run, h, Bool.false_eq_true, if_false]
  | @text bounds _ _ h =>
      refine ⟨Primitive.string.complaint v, fun c => ?_⟩
      have hfails : Primitive.string.run v c =
          Check.fail (c.explain (Primitive.string.complaint v) v) [] := by
        simp only [Primitive.run, Primitive.holds, h, Bool.false_eq_true, if_false]
      simp only [run, Assertion.inspect, Assertion.runBoundedText, hfails, Check.fail_bind]

/-- What a check reports can be written: its value, and what it brings along for its reports. -/
def ReportsWritable (factory : ErrorFactory) (inspection : Inspection) (v : Value) : Prop :=
  v.IsWritable ∧ match inspection with
    | .node a _ => a.ReportsWritable factory
    | .keyField .. => True
    | .crossField key _ => key.IsWritable

/-- What the check of the field that repeats the key complains about. -/
theorem exists_keyField_complaint {field : String} {key : Value} (hne : field ≠ "")
    (h : ¬ Assertion.RepeatsKey (some field) key v) {W : Prop} (hv : W → v.IsWritable) :
    ∃ message, Written W message ∧
      ∀ c, Assertion.runKeyField (some field) key v c = c.failBehind message := by
  unfold Assertion.runKeyField
  split
  · next hnone => exact absurd hnone (by simp only [reduceCtorEq, not_false_eq_true])
  · next hempty => exact absurd (Option.some.inj hempty) hne
  · next other _ hother =>
      rw [← Option.some.inj hother]
      rcases hentries : v.mapping? with _ | entries
      · exact ⟨_, withShown_written hv _, fun _ => rfl⟩
      · have hdiffers : ¬ (Entries.get entries field).strictEq key = true := fun hsame =>
          h fun found hfound => ⟨entries, hentries, Option.some.inj hfound ▸ hsame⟩
        refine ⟨_, withShown_written (fun hW => ?_) _, fun _ => if_neg hdiffers⟩
        exact Value.isWritable_get (Value.isWritable_of_mem_mapping (hv hW) hentries) field

section Reports

variable {position : Position}

theorem reports_test {ask : Value → Check Value} {message : Option Provider} {answer : Value}
    (hanswer : (ask v factory).result = .ok answer) (hfalse : answer.isTruthy = false)
    (hmessage : Provider.Answers factory message) :
    Check.Reports factory (ReportsWritable factory (.node (.test ask message) position) v)
      (run (.node (.test ask message) position) v) := by
  have hreports := Assertion.reports_testReport
    (W := ReportsWritable factory (.node (.test ask message) position) v) hmessage
    (fun hW => hW.2) (v := v) fun hW => hW.1
  refine hreports.of_result fun c => ?_
  simp only [run, Assertion.inspect, Assertion.runTest_eq, Check.result_bind, hanswer, hfalse,
    Bool.false_eq_true, if_false]

/-- Among the parts of a container an array is told from what else is no object. -/
theorem reports_schemaShape {W : Prop} {form : SchemaForm} {fields : List (Value × Assertion)}
    (hposition : position = .part ∨ position = .fallback) (hv : v.mapping? = none) :
    Check.Reports factory W (run (.node (.schema form fields) position) v) := by
  have hshape : Check.Reports factory W fun c =>
      Assertion.objectEntries v c >>= fun _ => (pure () : Check Unit) :=
    (Assertion.reports_objectEntries W hv).bind fun _ _ => pure ()
  rcases hposition with rfl | rfl
  · by_cases harray : v.isArray = true
    · have hrun : ∀ c, run (.node (.schema form fields) .part) v c =
          c.failBehind (.ok " use array_assertion() to create a value assertion for an array") := by
        intro c
        simp only [run, Assertion.inspect, harray, if_true, Context.failBehind_bind]
      exact Check.reports_of_failBehind (written_ok _) hrun
    · have hrun : ∀ c, run (.node (.schema form fields) .part) v c =
          (Assertion.objectEntries v c >>= fun _ => pure ()) := by
        intro c
        simp only [run, Assertion.inspect, harray, Bool.false_eq_true, if_false]
      exact hshape.of_result fun c => by rw [hrun]
  · exact hshape

theorem reports_objectShape {W : Prop} {inner : Assertion} {rules : ObjectRules}
    (hv : v.mapping? = none) :
    Check.Reports factory W (run (.node (.object inner none rules) position) v) := by
  rcases Assertion.exists_inspect_object inner rules position v with ⟨last, hlast⟩
  rw [funext (f := run (.node (.object inner none rules) position) v) hlast]
  exact ((Assertion.reports_objectEntries W hv).bind _).bind _

theorem reports_unknownName {inner : Assertion} {rules : ObjectRules} {name : Value}
    {entries : List (Value × Value)} (hv : v.mapping? = some entries)
    (h : RefusesName inner.declares rules entries name) :
    Check.Reports factory (ReportsWritable factory (.node (.object inner none rules) position) v)
      (run (.node (.object inner none rules) position) v) := by
  rcases Assertion.exists_inspect_object inner rules position v with ⟨last, hlast⟩
  rw [funext (f := run (.node (.object inner none rules) position) v) hlast]
  simp only [Assertion.objectEntries_of_mapping hv, pure_bind, Assertion.runNames_of_refused h]
  rcases h.mem with ⟨item, hmem⟩
  refine (Check.reports_of_failAt ((Value.plain_written fun hW => ?_).map _) fun _ => rfl).bind _
  exact (Value.isWritable_of_mem_mapping hW.1 hv _ hmem).1

theorem reports_arrayLength {element : Assertion} {rules : ArrayRules} {items : List Value}
    {broken : LengthFault} (hv : v.array? = some items)
    (h : rules.bounds.judge items.length = .ok (some broken)) :
    Check.Reports factory (ReportsWritable factory (.node (.array element rules) position) v)
      (run (.node (.array element rules) position) v) := by
  have hitems : ∀ c, Assertion.arrayItems rules v c =
      c.failUnder (Assertion.arrayComplaint rules.bounds items.length broken) := by
    intro c
    simp only [Assertion.arrayItems, hv, h, Check.ofExcept_ok, pure_bind]
  exact (Check.reports_of_failUnder
    (Assertion.arrayComplaint_written (fun hW => hW.2) items.length broken) hitems).bind
      fun _ _ => pure ()

theorem reports_repeated {W : Prop} {element : Assertion} {rules : ArrayRules}
    {items : List Value} {identity : Value → Check Value} (hv : v.array? = some items)
    (hjudge : rules.bounds.judge items.length = .ok none)
    (hidentity : rules.identity = some identity)
    (h : (hasUniqueElements v identity factory).result = .ok false) :
    Check.Reports factory W (run (.node (.array element rules) position) v) := by
  have hfails : Check.Reports factory W fun c : Context =>
      (c.failUnder (.ok "array contains non-unique elements") : Check (List Value)) :=
    Check.reports_of_failUnder (written_ok _) fun _ => rfl
  have hitems : Check.Reports factory W (Assertion.arrayItems rules v) := by
    refine hfails.of_result fun c => ?_
    simp only [Assertion.arrayItems, hv, hjudge, hidentity, Check.ofExcept_ok, pure_bind,
      Check.result_bind, h, Bool.false_eq_true, if_false]
  exact hitems.bind fun _ _ => pure ()

theorem reports_crossField {key : Value} {a : Assertion}
    (hkey : Assertion.isCrossField key = .ok true) (ha : a.isCallable = false) :
    Check.Reports factory (ReportsWritable factory (.crossField key a) v)
      (run (.crossField key a) v) := by
  have hrun : ∀ c, run (.crossField key a) v c =
      c.failBehind (Assertion.crossFieldComplaint key a) := by
    intro c
    simp only [run, Assertion.inspectCrossField, hkey, ha, Check.ofExcept_ok, pure_bind,
      if_true, Bool.false_eq_true, if_false]
  exact Check.reports_of_failBehind ((Value.plain_written fun hW => hW.2).map _) hrun

end Reports

/-- Every other complaint reports. There is one case for each of them. -/
theorem reports_of_complains (h : inspection.Complains factory v) :
    Check.Reports factory (inspection.ReportsWritable factory v) (inspection.run v) := by
  cases h with
  | predicate hanswer hfalse hmessage => exact reports_test hanswer hfalse hmessage
  | @textLength bounds position s broken h =>
      exact Check.reports_of_failAt
        (Assertion.textComplaint_written (fun hW => hW.2) s.length broken)
        fun c => (Assertion.runBoundedText_text bounds s c).2.2 broken h
  | schemaShape hposition hv => exact reports_schemaShape hposition hv
  | objectShape hv => exact reports_objectShape hv
  | unknownName hv h => exact reports_unknownName hv h
  | @arrayShape element rules _ _ hv =>
      exact (Check.reports_of_failUnder (withShown_written (fun hW => hW.1) _)
        (Assertion.arrayItems_of_not_array rules hv)).bind fun _ _ => pure ()
  | arrayLength hv h => exact reports_arrayLength hv h
  | repeated hv hjudge hidentity h => exact reports_repeated hv hjudge hidentity h
  | recordShape hv =>
      exact (Assertion.reports_recordEntries (fun hW => hW.1) hv).bind fun _ _ => pure ()
  | @nonassertion _ w hw =>
      have hrun : ∀ c, run (.node (.value w) .part) v c =
          c.failBehind (.ok (" assertion is not an object or a function: " ++ w.kindLabel)) := by
        intro c
        simp only [run, Assertion.inspect, hw]
      exact Check.reports_of_failBehind (written_ok _) hrun
  | @keyField field key _ hne h =>
      rcases exists_keyField_complaint (W := ReportsWritable factory (.keyField (some field) key) v)
        hne h fun hW => hW.1 with ⟨message, hmessage, hrun⟩
      exact Check.reports_of_failBehind hmessage hrun
  | crossField hkey ha => exact reports_crossField hkey ha

section Steady

variable {position : Position}

theorem steady_test {ask : Value → Check Value} {message : Option Provider}
    (h : ¬ Complains factory (.node (.test ask message) position) v) :
    Check.IsSteady factory (run (.node (.test ask message) position) v) := by
  have hrun : run (.node (.test ask message) position) v = fun c => ask v >>= fun answer =>
      if answer.isTruthy then pure ()
      else Check.failText (Assertion.testReport message v c) :=
    funext fun c => Assertion.runTest_eq ask message v c
  rw [hrun]
  refine Check.isSteady_bind (ask v) fun answer hanswer => ?_
  by_cases htrue : answer.isTruthy = true
  · simp only [htrue, if_true]
    exact Check.isSteady_of_const fun _ => rfl
  · simp only [htrue, Bool.false_eq_true, if_false]
    rcases hmessage : (Provider.evaluate message factory).result with raised | w
    · exact ⟨.error raised, Assertion.testReport_of_message_raises hmessage v⟩
    · exact absurd (.predicate hanswer (Bool.eq_false_iff.mpr htrue) ⟨w, hmessage⟩) h

theorem steady_boundedText {bounds : Bounds}
    (hleaf : ¬ FailsAtLeaf (.node (.boundedText bounds) position) v)
    (h : ¬ Complains factory (.node (.boundedText bounds) position) v) :
    Check.IsSteady factory (run (.node (.boundedText bounds) position) v) := by
  have htext : v.isText = true := Bool.of_not_eq_false fun hfalse => hleaf (.text hfalse)
  rcases Value.eq_text_of_isText htext with ⟨s, rfl⟩
  rcases hjudge : bounds.judge s.length with fault | _ | broken
  · exact Check.isSteady_of_const fun c => (Assertion.runBoundedText_text bounds s c).1 fault hjudge
  · exact Check.isSteady_of_const fun c => (Assertion.runBoundedText_text bounds s c).2.1 hjudge
  · exact absurd (.textLength hjudge) h

theorem steady_schema {form : SchemaForm} {fields : List (Value × Assertion)}
    (h : ¬ Complains factory (.node (.schema form fields) position) v) :
    Check.IsSteady factory (run (.node (.schema form fields) position) v) := by
  have hentries : ∀ {entries}, v.mapping? = some entries →
      Check.IsSteady factory fun c =>
        Assertion.objectEntries v c >>= fun _ => (pure () : Check Unit) := by
    intro entries hv
    simp only [Assertion.objectEntries_of_mapping hv]
    exact Check.isSteady_of_const fun _ => rfl
  cases position with
  | part =>
      rcases hv : v.mapping? with _ | entries
      · exact absurd (.schemaShape (Or.inl rfl) hv) h
      · have harray : v.isArray = false := by
          refine Bool.eq_false_iff.mpr fun harray => ?_
          exact absurd (Value.mapping?_of_isArray harray) (by simp only [hv, reduceCtorEq,
            not_false_eq_true])
        have hrun : run (.node (.schema form fields) .part) v = fun c =>
            Assertion.objectEntries v c >>= fun _ => pure () := by
          funext c
          simp only [run, Assertion.inspect, harray, Bool.false_eq_true, if_false]
        rw [hrun]
        exact hentries hv
  | fallback =>
      rcases hv : v.mapping? with _ | entries
      · exact absurd (.schemaShape (Or.inr rfl) hv) h
      · exact hentries hv
  | called => exact ⟨_, fun _ => Or.inl rfl⟩
  | direct => exact ⟨_, fun _ => Or.inl rfl⟩

theorem steady_object {inner : Assertion} {rules : ObjectRules}
    (h : ¬ Complains factory (.node (.object inner none rules) position) v) :
    Check.IsSteady factory (run (.node (.object inner none rules) position) v) := by
  rcases Assertion.exists_inspect_object inner rules position v with ⟨last, hlast⟩
  rcases hv : v.mapping? with _ | entries
  · exact absurd (.objectShape hv) h
  · rcases Assertion.runNames_of_not_refused fun ⟨name, hname⟩ => h (.unknownName hv hname) with
      ⟨names, hnames⟩
    rw [funext (f := run (.node (.object inner none rules) position) v) hlast]
    simp only [Assertion.objectEntries_of_mapping hv, pure_bind, hnames]
    exact Check.isSteady_of_const fun _ => rfl

theorem steady_array {element : Assertion} {rules : ArrayRules}
    (h : ¬ Complains factory (.node (.array element rules) position) v) :
    Check.IsSteady factory (run (.node (.array element rules) position) v) := by
  rcases hv : v.array? with _ | items
  · exact absurd (.arrayShape hv) h
  rcases hjudge : rules.bounds.judge items.length with fault | _ | broken
  · have hrun : ∀ c, run (.node (.array element rules) position) v c =
        Check.raise (.fault fault) := by
      intro c
      simp only [run, Assertion.inspect, Assertion.arrayItems, hv, hjudge, Check.ofExcept_error,
        Check.raise_bind]
    exact Check.isSteady_of_const hrun
  · rcases hidentity : rules.identity with _ | identity
    · have hrun : ∀ c, run (.node (.array element rules) position) v c = pure () := by
        intro c
        simp only [run, Assertion.inspect, Assertion.arrayItems, hv, hjudge, hidentity,
          Check.ofExcept_ok, pure_bind]
      exact Check.isSteady_of_const hrun
    · have hrun : run (.node (.array element rules) position) v = fun c =>
          hasUniqueElements v identity >>= fun unique =>
            (if unique then pure items
              else c.failUnder (.ok "array contains non-unique elements")) >>=
              fun _ => pure () := by
        funext c
        simp only [run, Assertion.inspect, Assertion.arrayItems, hv, hjudge, hidentity,
          Check.ofExcept_ok, pure_bind, bind_assoc]
      rw [hrun]
      refine Check.isSteady_bind _ fun unique hunique => ?_
      cases unique with
      | true => exact ⟨_, fun _ => Or.inl rfl⟩
      | false => exact absurd (.repeated hv hjudge hidentity hunique) h
  · exact absurd (.arrayLength hv hjudge) h

end Steady

/-- A check without a complaint, which calls no function from outside as an assertion, ends the same
    way wherever it stands: it passes, or what it raises owes nothing to its place. There is one
    case for each kind of check, and in each the complaints are what is left out. -/
theorem steady_of_content (hunbound : ∀ a position, inspection = .node a position → a.IsUnbound)
    (hinvoked : ∀ a position, inspection = .node a position → a.invoked? = none)
    (hleaf : ¬ inspection.FailsAtLeaf v) (hcontent : ¬ inspection.Complains factory v) :
    Check.IsSteady factory (inspection.run v) := by
  cases inspection with
  | node a position =>
      cases a with
      | primitive p =>
          have hholds : p.holds v = true :=
            Bool.of_not_eq_false fun hfalse => hleaf (.primitive hfalse)
          have hrun : ∀ c, run (.node (.primitive p) position) v c = pure () :=
            fun c => if_pos hholds
          exact Check.isSteady_of_const hrun
      | test ask message => exact steady_test hcontent
      | boundedText bounds => exact steady_boundedText hleaf hcontent
      | schema form fields => exact steady_schema hcontent
      | object inner own rules =>
          have hown : own = none := hunbound _ _ rfl
          subst hown
          exact steady_object hcontent
      | array element rules => exact steady_array hcontent
      | record item key keyField crossField =>
          rcases hv : v.mapping? with _ | entries
          · exact absurd (.recordShape hv) hcontent
          · have hrun : ∀ c, run (.node (.record item key keyField crossField) position) v c =
                pure () := by
              intro c
              simp only [run, Assertion.inspect, Assertion.recordEntries_of_mapping hv, pure_bind]
            exact Check.isSteady_of_const hrun
      | valueOr expected fallback => exact Check.isSteady_of_const fun _ => rfl
      | callable f =>
          exact absurd (hinvoked _ _ rfl) (by simp only [Assertion.invoked?, reduceCtorEq,
            not_false_eq_true])
      | value w =>
          have hw : w.asCallable? = none := hinvoked _ _ rfl
          by_cases hpart : position = .part
          · subst hpart
            exact absurd (.nonassertion hw) hcontent
          · -- In every other position the value is called, and the fault says nothing of a place.
            have hrun : ∀ c, run (.node (.value w) position) v c =
                Check.raise (.fault (.notCallable w.className)) := by
              intro c
              cases position <;> first
                | exact absurd rfl hpart
                | simp only [run, Assertion.inspect, hw]
            exact Check.isSteady_of_const hrun
  | keyField field key =>
      rcases field with _ | field
      · exact Check.isSteady_of_const fun _ => rfl
      · by_cases hempty : field = ""
        · subst hempty
          exact Check.isSteady_of_const fun _ => rfl
        · have hrepeats : Assertion.RepeatsKey (some field) key v :=
            Classical.byContradiction fun h => hcontent (.keyField hempty h)
          exact Check.isSteady_of_const (Assertion.runKeyField_of_repeats hempty hrepeats)
  | crossField key a =>
      refine Check.isSteady_bind _ fun found hfound => ?_
      cases found with
      | false => exact Check.isSteady_of_const fun _ => rfl
      | true =>
          have ha : a.isCallable = true := Bool.of_not_eq_false fun ha =>
            hcontent (.crossField (Check.ofExcept_ok_iff.mp hfound) ha)
          simp only [ha, if_true]
          exact Check.isSteady_of_const fun _ => rfl

end Inspection

end Attest
