import Attest.Assertion.Run
import Attest.Proofs.Outcome

/-!
# Places

How contexts are made, one step after another, and what becomes of them in a report.

A context is kept as data while a run goes on and is written only for a report, so the
text in front of a message is made long after the steps were taken. `text_along` and
`evaluate_along` say what comes out: what the provider gave at the start, followed by
the texts of the steps. Nothing depends on which kinds of containers follow each other.

The start is special in one way only. There, and nowhere below, an exception that the
provider gave is still an exception; one step further it is text like anything else.

## Main definitions

* `Step`: A step from a value to one of its parts.
* `pathText`: The steps of a path, written.
* `renderAlong`: What a provider gave, with the steps of a path behind it.
* `Place`: Where something stands, as a path from a start.
* `Place.contextFrom`: The context at a place.
* `seenAt`: What a provider gave, as it is seen at the end of a path.

## Theorems

* `explain_congr`: What a check says depends on what its place gives.
* `text_foldl`: The text of a place is that of the place it starts from, and its steps.
* `text_along`: The same, in terms of the provider at the start.
* `evaluate_along`: What a place gives as a provider, in terms of the one at the start.
* `contextFrom_under`: A place below a step starts where the step leads to.
* `contextFrom_within`: A place within an object of its own place starts from there.
-/

namespace Attest

namespace Context

/-- What a check says about a value depends on what its place gives as a provider. -/
theorem explain_congr {c d : Context} (h : c.evaluate = d.evaluate) (message : String) (v : Value) :
    c.explain message v = d.explain message v := by
  unfold explain
  rw [h]

end Context

/-- A step from a value to one of its parts. -/
inductive Step where
  /-- To a field of an object. -/
  | field (key : Value)
  /-- To an element of an array. -/
  | element (index : Nat)
  /-- To the item that a record holds under a key. -/
  | item (key : Value)
  /-- To a key of a record. -/
  | keyOf (key : Value)

namespace Step

/-- The place that a step leads to. -/
def extend (c : Context) : Step → Context
  | field key => .field c key
  | element index => .element c index
  | item key => .entry c key
  | keyOf key => .keyOf (.entry c key)

/-- A step, written. -/
def text : Step → Except Fault String
  | field key => do return "." ++ (← key.plain)
  | element index => .ok ("[" ++ Value.natural index ++ "]")
  | item key => do return "['" ++ (← key.plain) ++ "']"
  | keyOf key => do return "['" ++ (← key.plain) ++ "']" ++ ", key assertion failed:"

end Step

/-- The steps of a path, written one after another. -/
def pathText : List Step → Except Fault String
  | [] => .ok ""
  | step :: path => do
    let front ← step.text
    return front ++ (← pathText path)

namespace Context

/-- A text with what is written behind it. -/
def followedBy (x : Check String) (rest : Except Fault String) : Check String := do
  let s ← x
  return s ++ (← Check.ofExcept rest)

/-- A step adds its text to that of the place it is taken from. -/
theorem text_extend (c : Context) (step : Step) :
    (step.extend c).text = followedBy c.text step.text := by
  cases step with
  | element index =>
      simp only [Step.extend, text, Step.text, followedBy, Check.ofExcept_ok, pure_bind,
        String.append_assoc]
  | _ =>
      simp only [Step.extend, text, Step.text, followedBy, Check.ofExcept_bind,
        Check.ofExcept_pure, bind_assoc, pure_bind, String.append_assoc]

theorem text_foldl (path : List Step) (c : Context) :
    (path.foldl Step.extend c).text = followedBy c.text (pathText path) := by
  induction path generalizing c with
  | nil =>
      simp only [List.foldl_nil, pathText, followedBy, Check.ofExcept_ok, pure_bind,
        String.append_empty, bind_pure]
  | cons step path ih =>
      rw [List.foldl_cons, ih, text_extend]
      simp only [followedBy, pathText, Check.ofExcept_bind, Check.ofExcept_pure, bind_assoc,
        pure_bind, String.append_assoc]

/-- What a provider gave, written, with the steps of a path behind it. -/
def renderAlong (path : List Step) (v : Value) : Except Fault String := do
  let s ← Provider.render v
  return s ++ (← pathText path)

/-- The text of a place is what the provider gave at the start, followed by the steps. -/
theorem text_along (provider : Option Provider) (path : List Step) :
    (path.foldl Step.extend (.root provider)).text =
      (Provider.evaluate provider >>= fun v => Check.ofExcept (renderAlong path v)) := by
  rw [text_foldl]
  simp only [followedBy, text, Provider.message, renderAlong, Check.ofExcept_bind,
    Check.ofExcept_pure, bind_assoc]

/-- What a provider gave, as it is seen at the end of a path. At the start it is seen as it
    is, and anywhere below only its text is. -/
def seenAt : List Step → Value → Except Fault Value
  | [], v => .ok v
  | step :: path, v => .text <$> renderAlong (step :: path) v

theorem evaluate_extend (c : Context) (step : Step) :
    (step.extend c).evaluate = ((step.extend c).text >>= fun s => pure (.text s)) := by
  cases step <;> rfl

theorem evaluate_along (provider : Option Provider) (path : List Step) :
    (path.foldl Step.extend (.root provider)).evaluate =
      (Provider.evaluate provider >>= fun v => Check.ofExcept (seenAt path v)) := by
  rcases List.eq_nil_or_concat path with rfl | ⟨front, step, rfl⟩
  · exact (bind_pure _).symm
  · have hlast : ((front.concat step).foldl Step.extend (.root provider)) =
        step.extend (front.foldl Step.extend (.root provider)) := by
      rw [List.concat_eq_append, List.foldl_append]
      rfl
    have hseen : seenAt (front.concat step) =
        fun v => renderAlong (front.concat step) v >>= fun s => pure (.text s) := by
      cases front <;> rfl
    rw [hlast, evaluate_extend, ← hlast, text_along, hseen]
    simp only [bind_assoc, Check.ofExcept_bind, Check.ofExcept_pure]

end Context

/-- Where a visit stands: the own place that its object starts from, if it has one, and
    the steps from there. -/
structure Place where
  /-- The place that takes the place of the start, if there is one. -/
  own : Option Provider
  /-- The steps, from the start on. -/
  path : List Step

namespace Place

/-- The start of a run. -/
def start : Place :=
  ⟨none, []⟩

/-- A place below a step. What starts from its own place stays there. -/
def under (step : Step) (place : Place) : Place :=
  match place.own with
  | none => ⟨none, step :: place.path⟩
  | some _ => place

/-- A place within an object that may have its own. -/
def within (own : Option Provider) (place : Place) : Place :=
  match place.own with
  | none => ⟨own, place.path⟩
  | some _ => place

/-- The context at a place, for a run that starts from a context. -/
def contextFrom (c : Context) (place : Place) : Context :=
  place.path.foldl Step.extend (Assertion.placeOf place.own c)

theorem contextFrom_under (c : Context) (step : Step) (place : Place) :
    (place.under step).contextFrom c = place.contextFrom (step.extend c) := by
  rcases place with ⟨own | own, path⟩
  · rfl
  · rfl

theorem contextFrom_within (c : Context) (own : Option Provider) (place : Place) :
    (place.within own).contextFrom c = place.contextFrom (Assertion.placeOf own c) := by
  rcases place with ⟨_ | _, path⟩
  · rfl
  · rfl

end Place

end Attest
