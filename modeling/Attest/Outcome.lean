import Attest.Value.Written

/-!
# Outcomes

What running an assertion leaves behind: a result, and a trace of what was called
on the way.

Assertions report by raising, and what they raise for a violation is built by an
error factory that the surrounding program chooses. `Check` is a computation that
knows the factory, can be observed by the calls it makes, and ends with a value or
with something raised. The trace keeps the calls made before something was raised.

What is raised keeps its origin: an exception that came in from outside, one that
the factory built, or a fault of an operation that was misused. Only the factory's
own exceptions change when the factory does.

## Main definitions

* `Event`: A call that can be observed.
* `Raised`: What a computation raises.
* `Outcome`: A trace with a result.
* `ErrorFactory`: How a violation becomes something to raise.
* `Check`: Computations with an outcome.
* `messageOf`: The message of an exception.

## Theorems

* `bind_apply_error`: What raises ends the sequence.
* `bind_apply_ok`: Traces of a sequence follow each other.
-/

namespace Attest

/-- A call that can be observed. -/
inductive Event where
  /-- An error provider was evaluated. -/
  | provided (name : String)
  /-- A predicate was asked about a value. -/
  | checked (name : String) (value : Value)
  /-- An element was asked for its identity. -/
  | identified (name : String) (element : Value)
  /-- An assertion was called, and perhaps the context it read. -/
  | called (name : String) (value : Value) (context : Option Value)
  /-- Two elements were compared. -/
  | compared (left right : Value)

/-- What a computation raises. -/
inductive Raised where
  /-- An exception that came in from outside. -/
  | given (id : Identity) (kind : ExceptionKind) (arguments : List Value)
  /-- An exception built by the error factory. -/
  | built (kind : ExceptionKind) (arguments : List Value)
  /-- A fault of an operation. -/
  | fault (f : Fault)

/-- The message of an exception: its only argument if that is a text, else its
    plain form. An empty message gives way to the quoted form. -/
def messageOf (e : Value) : Except Fault String := do
  let message ← match e with
    | .exception _ _ [.text s] => .ok s
    | e => e.plain
  if message = "" then e.quoted else return message

/-- The message of something reported as an error. What is not an exception has the
    default message, if there is one, and else its plain form. -/
def reportedMessage (error : Value) (default : Option String) : Except Fault String :=
  match error, default with
  | .exception id kind arguments, _ => messageOf (.exception id kind arguments)
  | _, some message => .ok message
  | v, none => v.plain

namespace Raised

/-- Raising a value: what is not an exception cannot be raised. -/
def ofValue : Value → Raised
  | .exception id kind arguments => given id kind arguments
  | _ => fault .notException

/-- What was raised, as an exception. -/
def exception : Raised → Value
  | given id kind arguments => .exception id kind arguments
  | built kind arguments => .exception .converted kind arguments
  | fault (.unwritable id kind arguments) => .exception id kind arguments
  | fault f => .exception .converted f.kind f.arguments

/-- The kind of what was raised. -/
def kind : Raised → ExceptionKind
  | given _ kind _ | built kind _ => kind
  | fault f => f.kind

/-- Whether an ordinary error was raised, which may be caught. -/
def isOrdinary (r : Raised) : Bool :=
  r.kind.isOrdinary

/-- The message of what was raised. -/
def message (r : Raised) : Except Fault String :=
  messageOf r.exception

end Raised

/-- What a computation leaves behind. -/
structure Outcome (α : Type) where
  /-- The calls that were made, in order. -/
  trace : List Event
  /-- The value at the end, or what was raised. -/
  result : Except Raised α

/-- How a violation, given by its message and further values, becomes something to
    raise. -/
abbrev ErrorFactory := Value → List Value → Raised

/-- A computation with an outcome, under an error factory. -/
def Check (α : Type) : Type := ErrorFactory → Outcome α

namespace Check

/-- The computation that ends with a value at once. -/
def succeed {α : Type} (a : α) : Check α :=
  fun _ => ⟨[], .ok a⟩

/-- The computation that raises at once. -/
def raise {α : Type} (r : Raised) : Check α :=
  fun _ => ⟨[], .error r⟩

/-- One computation and then another. The second one is not run if the first one
    raises. -/
def andThen {α β : Type} (x : Check α) (f : α → Check β) : Check β :=
  fun factory =>
    match x factory with
    | ⟨trace, .error r⟩ => ⟨trace, .error r⟩
    | ⟨trace, .ok a⟩ =>
      let rest := f a factory
      ⟨trace ++ rest.trace, rest.result⟩

instance : Monad Check where
  pure := succeed
  bind := andThen

/-- Ending with a value leaves no trace. -/
@[simp] theorem pure_apply {α : Type} (a : α) (factory : ErrorFactory) :
    (pure a : Check α) factory = ⟨[], .ok a⟩ :=
  rfl

/-- If the first computation raises, so does the sequence, with its trace. -/
theorem bind_apply_error {α β : Type} {x : Check α} {factory : ErrorFactory} {trace : List Event}
    {r : Raised} (h : x factory = ⟨trace, .error r⟩) (f : α → Check β) :
    (x >>= f) factory = ⟨trace, .error r⟩ := by
  simp only [bind, andThen, h]

/-- If the first computation ends with a value, the sequence goes on with it, and
    the traces follow each other. -/
theorem bind_apply_ok {α β : Type} {x : Check α} {factory : ErrorFactory} {trace : List Event}
    {a : α} (h : x factory = ⟨trace, .ok a⟩) (f : α → Check β) :
    (x >>= f) factory = ⟨trace ++ (f a factory).trace, (f a factory).result⟩ := by
  simp only [bind, andThen, h]

instance : LawfulMonad Check :=
  LawfulMonad.mk' Check
    (by
      intro α x
      funext factory
      rcases hx : x factory with ⟨trace, _ | a⟩
      · exact bind_apply_error hx _
      · change (x >>= pure ∘ id) factory = _
        rw [bind_apply_ok hx]
        simp only [Function.comp, id, pure_apply, List.append_nil])
    (by
      intro α β a f
      funext factory
      rw [bind_apply_ok (pure_apply a factory) f, List.nil_append])
    (by
      intro α β γ x f g
      funext factory
      rcases hx : x factory with ⟨trace, _ | a⟩
      · rw [bind_apply_error hx, bind_apply_error (bind_apply_error hx f)]
      · rcases hf : f a factory with ⟨rest, _ | b⟩
        · have hxf := bind_apply_ok hx f
          rw [hf] at hxf
          rw [bind_apply_error hxf, bind_apply_ok hx, bind_apply_error hf]
        · have hxf := bind_apply_ok hx f
          rw [hf] at hxf
          rw [bind_apply_ok hxf, bind_apply_ok hx, bind_apply_ok hf, List.append_assoc])

/-- Leave an event in the trace. -/
def record (event : Event) : Check Unit :=
  fun _ => ⟨[event], .ok ()⟩

/-- The value of an operation on values, where a fault is raised. -/
def ofExcept {α : Type} : Except Fault α → Check α
  | .ok a => succeed a
  | .error f => raise (.fault f)

/-- What the factory makes of a violation. -/
def violation {α : Type} (message : Value) (extra : List Value) : Check α :=
  fun factory => ⟨[], .error (factory message extra)⟩

/-- Run a computation and look at what it raises. -/
def attempt {α : Type} (x : Check α) : Check (Except Raised α) :=
  fun factory =>
    let outcome := x factory
    ⟨outcome.trace, .ok outcome.result⟩

end Check

end Attest
