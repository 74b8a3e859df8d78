import Attest.Proofs.Traversal

/-!
# Compositional Properties

What sequences preserve holds of every check.

The own checks of nodes are put together from few things: operations on values, calls of
functions that come from outside, failures at a place, and one after another of these. A
property that sequences preserve therefore only has to be shown of the parts.
`run_compositional` is that argument, made once. What a run does with a provider, with its
context or with the factory is an instance of it, and only the parts differ.

A property may relate several computations to each other, such as the same check at two
places. So it speaks of a family of computations. What does not depend on the index is a
constant family.

## Main definitions

* `Compositional`: A property of families that holds of values and faults, and that sequences
  preserve.
* `Reporting`: A property holds of the failures at a place.
* `Assertion.testReport`: What the failure of a predicate says.
* `Assertion.Fits`, `Inspection.Fits`: A property holds of what a check calls.

## Theorems

* `Reporting.failAt`, `Reporting.failUnder`, `Reporting.failBehind`: Failures at a place.
* `inspect_compositional`: The own check of a node has the property.
* `run_compositional`: Every check of a run has the property.
* `runVisits_compositional`: Visits with the property make a run with it.
-/

namespace Attest

variable {ι : Type}

/-- A property of families of computations that holds of values and faults, and that sequences
    preserve. -/
structure Compositional (Q : ∀ {α : Type}, (ι → Check α) → Prop) : Prop where
  /-- It holds of values. -/
  value : ∀ {α : Type} (a : α), Q fun _ => (pure a : Check α)
  /-- It holds of faults. -/
  fault : ∀ {α : Type} (f : Fault), Q fun _ => (Check.raise (.fault f) : Check α)
  /-- Sequences preserve it. -/
  bind : ∀ {α β : Type} {x : ι → Check α} {f : α → ι → Check β}, Q x → (∀ a, Q (f a)) →
    Q fun i => x i >>= fun a => f a i

/-- A property of families of computations holds of the failures at a place. -/
structure Reporting (Q : ∀ {α : Type}, (ι → Check α) → Prop) (c : ι → Context) : Prop where
  /-- It holds of failing with a text that depends on the one of the place, if it can be written. -/
  text : ∀ {α : Type} (write : String → Except Fault String),
    Q fun i => (Check.failText ((c i).text >>= fun s => Check.ofExcept (write s)) : Check α)
  /-- It holds of failing with the place and a value. -/
  explain : ∀ (message : String) (v : Value),
    Q fun i => (Check.fail ((c i).explain message v) [] : Check Unit)

section

variable {Q : ∀ {α : Type}, (ι → Check α) → Prop} {c : ι → Context} {α : Type}

theorem Compositional.ofExcept (hQ : Compositional @Q) (x : Except Fault α) :
    Q fun _ => Check.ofExcept x := by
  rcases x with f | a
  · exact hQ.fault f
  · exact hQ.value a

/-- The place is not looked at before the message is written. -/
theorem Reporting.failAt (hQ : Compositional @Q) (hc : Reporting @Q c)
    (message : Except Fault String) : Q fun i => ((c i).failAt message : Check α) := by
  rcases message with f | message
  · exact hQ.fault f
  · exact hc.text fun place => .ok (Context.joined place message)

theorem Reporting.failUnder (hc : Reporting @Q c) (message : Except Fault String) :
    Q fun i => ((c i).failUnder message : Check α) := by
  have htext := hc.text (α := α) fun place => message >>= fun s => pure (Context.joined place s)
  simp only [Check.ofExcept_bind] at htext
  exact htext

theorem Reporting.failBehind (hc : Reporting @Q c) (message : Except Fault String) :
    Q fun i => ((c i).failBehind message : Check α) := by
  have htext := hc.text (α := α) fun place => message >>= fun s => pure (place ++ s)
  simp only [Check.ofExcept_bind] at htext
  exact htext

end

namespace Assertion

/-- What the failure of a predicate says: the place, or a remark if that is empty, and the
    message that comes with the predicate, or the value if that is empty. -/
def testReport (message : Option Provider) (v : Value) (c : Context) : Check String := do
  let place ← c.text
  let place := if place = "" then "Check is failed" else place
  let place := if place.toList.getLast? = some ':' then place else place ++ ":"
  let text ← Provider.message message
  return place ++ " " ++ (← if text = "" then Check.ofExcept (checkedForm v) else pure text)

theorem runTest_eq (predicate : Value → Check Value) (message : Option Provider) (v : Value)
    (c : Context) : runTest predicate message v c = (predicate v >>= fun answer =>
      if answer.isTruthy then pure () else Check.failText (testReport message v c)) :=
  rfl

theorem testReport_congr {c d : Context} (h : c.text = d.text) (message : Option Provider)
    (v : Value) : testReport message v c = testReport message v d := by
  unfold testReport
  rw [h]

/-- A property of families of computations holds of what the own check of a node calls. -/
def Fits (Q : ∀ {α : Type}, (ι → Check α) → Prop) (c : ι → Context) : Assertion → Prop
  | test predicate message => ∀ v, (Q fun _ => predicate v) ∧
      Q fun i => (Check.failText (testReport message v (c i)) : Check Unit)
  | object _ own _ => Reporting @Q fun i => placeOf own (c i)
  | array _ rules => ∀ identity, rules.identity = some identity → ∀ v, Q fun _ => identity v
  | callable f => ∀ position v, Q fun i => f.run position v (c i)
  | value w => ∀ f, w.asCallable? = some f → ∀ position v, Q fun i => f.run position v (c i)
  | _ => True

section Nodes

variable {Q : ∀ {α : Type}, (ι → Check α) → Prop} (hQ : Compositional @Q) {c : ι → Context}

include hQ

theorem uniqueAfter_compositional {identity : Value → Check Value}
    (hidentity : ∀ v, Q fun _ => identity v) (elements seen : List Value) :
    Q fun _ => uniqueAfter identity seen elements := by
  induction elements generalizing seen with
  | nil => exact hQ.value true
  | cons element elements ih =>
      refine hQ.bind (hidentity element) fun key => hQ.bind (hQ.ofExcept _) fun found => ?_
      cases found with
      | true => exact hQ.value false
      | false => exact hQ.bind (hQ.ofExcept _) fun _ => ih (key :: seen)

theorem hasUniqueElements_compositional {identity : Value → Check Value}
    (hidentity : ∀ v, Q fun _ => identity v) (v : Value) :
    Q fun _ => hasUniqueElements v identity := by
  refine hQ.bind (hQ.ofExcept _) fun length => ?_
  by_cases hlength : length ≤ 1
  · simp only [if_pos hlength]
    exact hQ.value true
  · simp only [if_neg hlength]
    exact hQ.bind (hQ.ofExcept _) fun elements => uniqueAfter_compositional hQ hidentity elements []

variable (hc : Reporting @Q c)

include hc

theorem primitive_compositional (p : Primitive) (v : Value) : Q fun i => p.run v (c i) := by
  unfold Primitive.run
  by_cases hp : p.holds v = true
  · simp only [if_pos hp]
    exact hQ.value ()
  · simp only [if_neg hp]
    exact hc.explain _ v

theorem runBoundedText_compositional (bounds : Bounds) (v : Value) :
    Q fun i => runBoundedText bounds v (c i) := by
  unfold runBoundedText
  refine hQ.bind (primitive_compositional hQ hc .string v) fun _ => hQ.bind (hQ.ofExcept _) fun n =>
    hQ.bind (hQ.ofExcept _) fun broken => ?_
  rcases broken with _ | broken
  · exact hQ.value ()
  · exact hc.failAt hQ _

theorem objectEntries_compositional (v : Value) : Q fun i => objectEntries v (c i) := by
  rcases hv : v.mapping? with _ | entries
  · rcases objectEntries_of_not_mapping hv with ⟨message, hentries⟩
    simp only [hentries]
    exact hc.failAt hQ _
  · simp only [objectEntries_of_mapping hv]
    exact hQ.value entries

theorem recordEntries_compositional (v : Value) : Q fun i => recordEntries v (c i) := by
  rcases hv : v.mapping? with _ | entries
  · simp only [recordEntries_of_not_mapping hv]
    exact hc.failUnder _
  · simp only [recordEntries_of_mapping hv]
    exact hQ.value entries

theorem refuseUnknown_compositional (declares : Value → Except Fault Bool)
    (allowed names : List Value) : Q fun i => refuseUnknown declares allowed (c i) names := by
  induction names with
  | nil => exact hQ.value ()
  | cons name names ih =>
      refine hQ.bind (hQ.ofExcept _) fun declared => ?_
      by_cases hname : (declared || allowed.any fun other => other.isSameKey name) = true
      · simp only [if_pos hname]
        exact ih
      · simp only [if_neg hname]
        exact hc.failAt hQ _

theorem runNames_compositional (declares : Value → Except Fault Bool) (rules : ObjectRules)
    (entries : List (Value × Value)) : Q fun i => runNames declares rules entries (c i) := by
  unfold runNames
  by_cases hstrict : rules.isStrict = true
  · simp only [if_pos hstrict]
    exact hQ.bind (hQ.ofExcept _) fun allowed => hQ.bind (hQ.ofExcept _) fun _ =>
      refuseUnknown_compositional hQ hc _ _ _
  · simp only [if_neg hstrict]
    exact hQ.value ()

theorem arrayItems_compositional {rules : ArrayRules}
    (hidentity : ∀ identity, rules.identity = some identity → ∀ v, Q fun _ => identity v)
    (v : Value) : Q fun i => arrayItems rules v (c i) := by
  unfold arrayItems
  rcases v.array? with _ | items
  · exact hc.failUnder _
  · refine hQ.bind (hQ.ofExcept _) fun broken => ?_
    rcases broken with _ | broken
    · rcases hrules : rules.identity with _ | identity
      · exact hQ.value items
      · refine hQ.bind (hasUniqueElements_compositional hQ (hidentity identity hrules) v)
          fun unique => ?_
        cases unique with
        | true => exact hQ.value items
        | false => exact hc.failUnder _
    · exact hc.failUnder _

theorem runKeyField_compositional (keyField : Option String) (key item : Value) :
    Q fun i => runKeyField keyField key item (c i) := by
  unfold runKeyField
  split
  · exact hQ.value ()
  · exact hQ.value ()
  · next field _ =>
      rcases item.mapping? with _ | entries
      · exact hc.failBehind _
      · by_cases hsame : (Entries.get entries field).strictEq key = true
        · simp only [if_pos hsame]
          exact hQ.value ()
        · simp only [if_neg hsame]
          exact hc.failBehind _

theorem inspectCrossField_compositional (key : Value) (a : Assertion) :
    Q fun i => inspectCrossField key a (c i) := by
  refine hQ.bind (hQ.ofExcept _) fun found => ?_
  cases found with
  | false => exact hQ.value ()
  | true =>
      by_cases ha : a.isCallable = true
      · simp only [if_pos ha]
        exact hQ.value ()
      · simp only [if_neg ha]
        exact hc.failBehind _

/-- The own check of a node has every compositional property that holds of the failures at its
    place and of what it calls. -/
theorem inspect_compositional {a : Assertion} (ha : a.Fits @Q c) (position : Position) (v : Value) :
    Q fun i => a.inspect position v (c i) := by
  cases a with
  | primitive p => exact primitive_compositional hQ hc p v
  | test predicate message =>
      simp only [inspect, runTest_eq]
      refine hQ.bind (ha v).1 fun answer => ?_
      by_cases hanswer : answer.isTruthy = true
      · simp only [if_pos hanswer]
        exact hQ.value ()
      · simp only [if_neg hanswer]
        exact (ha v).2
  | boundedText bounds => exact runBoundedText_compositional hQ hc bounds v
  | schema form fields =>
      have hentries := hQ.bind (objectEntries_compositional hQ hc v) fun _ => hQ.value ()
      simp only [inspect]
      cases position with
      | part =>
          by_cases hv : v.isArray = true
          · simp only [if_pos hv]
            exact hQ.bind (hc.failBehind _) fun _ => hentries
          · simp only [if_neg hv]
            exact hentries
      | fallback => exact hentries
      | called =>
          simp only [Check.raise_bind]
          exact hQ.fault _
      | direct =>
          simp only [Check.raise_bind]
          exact hQ.fault _
  | object inner own rules =>
      have hnames : ∀ declares, Q fun i => objectEntries v (placeOf own (c i)) >>= fun entries =>
          runNames declares rules entries (placeOf own (c i)) := fun declares =>
        hQ.bind (objectEntries_compositional hQ ha v) fun entries =>
          runNames_compositional hQ ha declares rules entries
      cases inner with
      | schema form fields => exact hnames _
      | _ =>
          simp only [inspect, ← bind_assoc]
          exact hQ.bind (hnames _) fun _ => hQ.fault _
  | array element rules =>
      exact hQ.bind (arrayItems_compositional hQ hc ha v) fun _ => hQ.value ()
  | record item key keyField crossField =>
      exact hQ.bind (recordEntries_compositional hQ hc v) fun _ => hQ.value ()
  | valueOr expected fallback => exact hQ.value ()
  | callable f => exact ha position v
  | value w =>
      simp only [inspect]
      rcases hw : w.asCallable? with _ | f
      · cases position with
        | part => exact hc.failBehind _
        | _ => exact hQ.fault _
      · exact ha f hw position v

end Nodes

end Assertion

namespace Inspection

/-- A property of families of computations holds of what a check calls. -/
def Fits (Q : ∀ {α : Type}, (ι → Check α) → Prop) (c : ι → Context) : Inspection → Prop
  | node a _ => a.Fits @Q c
  | _ => True

variable {Q : ∀ {α : Type}, (ι → Check α) → Prop} {c : ι → Context}

/-- Every check of a run has every compositional property that holds of the failures at its
    place and of what it calls. -/
theorem run_compositional (hQ : Compositional @Q) (hc : Reporting @Q c) {inspection : Inspection}
    (hfits : inspection.Fits @Q c) (v : Value) : Q fun i => inspection.run v (c i) := by
  cases inspection with
  | node a position => exact Assertion.inspect_compositional hQ hc hfits position v
  | keyField field key => exact Assertion.runKeyField_compositional hQ hc field key v
  | crossField key a => exact Assertion.inspectCrossField_compositional hQ hc key a

end Inspection

/-- Visits with a compositional property make a run with it. -/
theorem runVisits_compositional {Q : ∀ {α : Type}, (ι → Check α) → Prop} (hQ : Compositional @Q)
    {c : ι → Context} {visits : List Visit} (h : ∀ visit ∈ visits, Q fun i => visit.run (c i)) :
    Q fun i => runVisits visits (c i) := by
  induction visits with
  | nil => exact hQ.value ()
  | cons visit visits ih =>
      rcases List.forall_mem_cons.mp h with ⟨hvisit, hvisits⟩
      exact hQ.bind hvisit fun _ => ih hvisits

end Attest
