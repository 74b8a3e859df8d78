import Attest.Primitive

/-!
# Assertions

The tree of checks that a value is held against.

A leaf is a primitive check, a predicate, a bound on the length of a text, or a
function that the surrounding program supplies. A schema names fields and what
each of them has to satisfy; its cross-field entry is called with the whole object
once all fields have passed. Objects, arrays and records put an assertion to work
on their parts, with rules of their own. An alternative accepts one value and hands
every other one on.

A tree may hold a plain value where an assertion belongs. That is a mistake in the
tree, to be reported when a run meets it, and so it has a place in the type.

## Main definitions

* `Signature`, `Profile`, `Callable`: Functions that the surrounding program supplies.
* `Bounds`, `ObjectRules`, `ArrayRules`: The rules of containers.
* `Assertion`: A tree of checks.
* `Assertion.ofValue`: A plain value used as an assertion.
-/

namespace Attest

/-- How many arguments a function takes. -/
structure Signature where
  /-- The least number of arguments. -/
  least : Nat
  /-- The largest number of arguments, if there is one. -/
  most : Option Nat

namespace Signature

/-- Whether a number of arguments is taken. -/
def takes (s : Signature) (n : Nat) : Bool :=
  s.least ≤ n && s.most.all (n ≤ ·)

/-- The signature of a function of a value and, if wanted, its context. -/
def assertion : Signature :=
  ⟨1, some 2⟩

/-- The signature of a function of a value alone. -/
def predicate : Signature :=
  ⟨1, some 1⟩

/-- The signature of a function of any arguments. -/
def variadic : Signature :=
  ⟨0, none⟩

end Signature

/-- What reports say of a function. -/
structure Profile where
  /-- The name of its class. -/
  className : String
  /-- The fault of calling it with a number of arguments that it does not take. -/
  refusal : Nat → Fault

namespace Profile

/-- A function that reports do not name. -/
def unnamed : Profile :=
  ⟨"function", fun _ => .wrongArguments⟩

/-- A function of one argument with a name. -/
def named (name : String) : Profile :=
  ⟨"function", .tooManyArguments name⟩

/-- A function of one argument that comes with the system, with a name. -/
def native (name : String) : Profile :=
  ⟨"builtin_function_or_method", .notOneArgument name⟩

/-- A class, called as a function. -/
def ofClass (c : BuiltinClass) : Profile :=
  ⟨"type", .surplusArguments c.name⟩

end Profile

/-- A function that the surrounding program supplies. It is called with a value, or
    with a value and the context, and should return the value that stands for
    nothing. -/
structure Callable where
  /-- What reports say of it. -/
  profile : Profile
  /-- How many arguments it takes. -/
  signature : Signature
  /-- The call with a value, and the context if it is passed. -/
  call : Value → Option Context → Check Value

namespace Callable

/-- Call a function with a value alone. -/
def callWithValue (f : Callable) (v : Value) : Check Value :=
  if f.signature.takes 1 then f.call v none else Check.raise (.fault (f.profile.refusal 1))

/-- Call a function with a value and its context. -/
def callWithContext (f : Callable) (v : Value) (c : Context) : Check Value :=
  if f.signature.takes 2 then f.call v (some c) else Check.raise (.fault (f.profile.refusal 2))

/-- Call a function as an assertion: with the context if it takes one. -/
def callAsAssertion (f : Callable) (v : Value) (c : Context) : Check Value :=
  if f.signature.takes 2 then f.callWithContext v c else f.callWithValue v

end Callable

/-- How many arguments a class says that it takes. A class that does not say so is offered
    any number of them, and may refuse. -/
def BuiltinClass.signature : BuiltinClass → Signature
  | list | floating => ⟨0, some 1⟩
  | mapping | text | integer | boolean => .variadic

/-- A class as a function: it converts a value, perhaps with the help of the context. -/
def BuiltinClass.asCallable (c : BuiltinClass) (signature : Signature) : Callable :=
  ⟨.ofClass c, signature, fun v context =>
    match context with
    | none => Check.ofExcept (c.convert v)
    | some context => Check.ofExcept (c.convertBy v context.toValue)⟩

/-- A value that can be called, as a function. -/
def Value.asCallable? : Value → Option Callable
  | .function .. | .callable .. => some ⟨.unnamed, .variadic, fun _ _ => pure .null⟩
  | .builtin c => some (c.asCallable c.signature)
  | .applied c _ => some (c.asCallable .variadic)
  | _ => none

/-- Bounds on a length, both inclusive. Any value may be given as a bound; whether
    it can be compared with a length turns out when it is. -/
structure Bounds where
  /-- The least length. -/
  min : Value
  /-- The largest length. -/
  max : Value

namespace Bounds

/-- The bounds that every length keeps. -/
def unbounded : Bounds :=
  ⟨.int 0, .null⟩

/-- The lower bound; a bound that counts as false is zero. -/
def lower (b : Bounds) : Value :=
  if b.min.isTruthy then b.min else .int 0

/-- The upper bound; without one it is infinite. -/
def upper (b : Bounds) : Value :=
  match b.max with
  | .null => .float .converted (.infinite false)
  | max => max

end Bounds

/-- The rules of an object. -/
structure ObjectRules where
  /-- Whether fields that the schema does not name are refused. -/
  isStrict : Bool
  /-- The elements of this value are names that are not refused. -/
  allowed : Value

/-- The rules of an object that may have any further fields. -/
def ObjectRules.lenient : ObjectRules :=
  ⟨false, .tuple .converted []⟩

/-- The rules of an array. -/
structure ArrayRules where
  /-- The bounds on its length. -/
  bounds : Bounds
  /-- The identity that its elements must not share, if any. -/
  identity : Option (Value → Check Value)

/-- The rules of an array of any length. -/
def ArrayRules.lenient : ArrayRules :=
  ⟨.unbounded, none⟩

/-- What a schema is written as. -/
inductive SchemaForm where
  | dict
  /-- A read-only mapping. -/
  | view
  /-- A mapping for which the order of its entries counts. -/
  | ordered
deriving DecidableEq

/-- The name of the class of what a schema is written as. -/
def SchemaForm.className : SchemaForm → String
  | dict => "dict"
  | view => "mappingproxy"
  | ordered => "collections.OrderedDict"

/-- A tree of checks. -/
inductive Assertion where
  /-- A primitive check. -/
  | primitive (p : Primitive)
  /-- A predicate, which passes if its answer counts as true, and the message of its
      failure. -/
  | test (predicate : Value → Check Value) (message : Option Provider)
  /-- A text of bounded length. -/
  | boundedText (bounds : Bounds)
  /-- Fields and what each of them has to satisfy. -/
  | schema (form : SchemaForm) (fields : List (Value × Assertion))
  /-- A schema with rules, and perhaps a place of its own. -/
  | object (schema : Assertion) (place : Option Provider) (rules : ObjectRules)
  /-- An array, and what each element has to satisfy. -/
  | array (element : Assertion) (rules : ArrayRules)
  /-- A record: what each item and each key has to satisfy, the field of each item
      that repeats its key, and what the whole record has to satisfy. -/
  | record (item : Assertion) (key : Option Assertion) (keyField : Option String)
      (crossField : Option Assertion)
  /-- One value that is accepted, and what any other one has to satisfy. -/
  | valueOr (expected : Value) (fallback : Assertion)
  /-- A function that the surrounding program supplies. -/
  | callable (f : Callable)
  /-- A plain value in the place of an assertion. -/
  | value (v : Value)

namespace Assertion

/-- The key of the cross-field entry of a schema. -/
def crossFieldKey : String :=
  "$o"

/-- Whether an entry of a schema is the cross-field entry. An opaque object in the place
    of the key decides for itself, and may refuse. -/
def isCrossField (key : Value) : Except Fault Bool :=
  key.looseEq crossFieldKey

mutual

/-- A plain value used as an assertion. A mapping is a schema of plain values. -/
def ofValue : Value → Assertion
  | .dict _ entries => schema .dict (ofEntries entries)
  | .view _ entries => schema .view (ofEntries entries)
  | .ordered _ entries => schema .ordered (ofEntries entries)
  | v => value v

/-- The entries of a mapping used as a schema. -/
def ofEntries : List (Value × Value) → List (Value × Assertion)
  | [] => []
  | (key, v) :: entries => (key, ofValue v) :: ofEntries entries

end

/-- Whether an assertion can be called as a function. -/
def isCallable : Assertion → Bool
  | schema .. => false
  | value v => v.isCallable
  | _ => true

/-- The diagnostic kind of what stands in the place of an assertion. -/
def kindLabel : Assertion → String
  | schema .. => "object"
  | value v => v.kindLabel
  | _ => "function"

/-- The name of the class of what stands in the place of an assertion. -/
def className : Assertion → String
  | schema form _ => form.className
  | callable f => f.profile.className
  | value v => v.className
  | _ => "function"

/-- Whether a name is one of the fields of a schema. Anything else is asked whether
    it contains the name. -/
def declares (a : Assertion) (name : Value) : Except Fault Bool :=
  match a with
  | schema _ fields => .ok (fields.any fun field => field.1.isSameKey name)
  | value v => v.contains name
  | a => .error (.notContainer a.className)

/-- The fault of using something that is not a mapping as a schema. -/
def notSchema : Assertion → Fault
  | value (.builtin .mapping) => .unboundMethod "dict" "items"
  | value (.builtin c) => .noMethod ("type object " ++ Fault.named c.name) "items"
  | a => .noMethod (Fault.named a.className ++ " object") "items"

end Assertion

end Attest
