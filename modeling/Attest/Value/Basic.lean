import Attest.Number.Magnitude
import Attest.Calendar.DateTime

/-!
# Untyped Values

The values that assertions are made about.

Data that comes from outside is untyped: a field may hold a number, a text, a
list, or nothing at all. `Value` has one constructor for each kind of thing that
can turn up, and a separate value for a field that does not exist, which is not
the same as a field that holds nothing.

Two lists with the same elements may still be two lists. Where that can be seen,
a value carries an `Identity`: containers, functions, opaque objects and
exceptions are matched by it, and so is a number that is not a number, which
equals nothing but can be the same object as itself. Values for which identity
cannot be told apart from equality carry none.

Most values are written in one way. An opaque object and an exception of the program's
own kind write themselves, as any text at all, or refuse by raising something.

Not among the values are queues, namespaces, slices, counters and other containers of
the standard library, classes of the program's own that compare or iterate in their own
way, and a read-only mapping that shows anything but a plain one.

## Main definitions

* `Identity`: What makes an object the one it is.
* `ExceptionKind`: The kinds of exceptions.
* `Writing`: What an object gives that writes itself.
* `Value`: An untyped value.
* `Value.isSame`: Whether two values are one object.
-/

namespace Attest

/-- What makes an object the one it is. -/
inductive Identity where
  /-- An object handed in from outside, by its number. -/
  | given (n : Nat)
  /-- The record built for a row of a table. -/
  | row (i : Nat)
  /-- The result of converting a value, which is looked at once. -/
  | converted
deriving DecidableEq, Inhabited

/-- The classes that values themselves belong to. -/
inductive BuiltinClass where
  | mapping
  | text
  | integer
  | list
  | boolean
  | floating
deriving DecidableEq, Inhabited

/-- The name of a class. -/
def BuiltinClass.name : BuiltinClass → String
  | mapping => "dict"
  | text => "str"
  | integer => "int"
  | list => "list"
  | boolean => "bool"
  | floating => "float"

/-- How an opaque object behaves when it is compared or tested. -/
inductive ObjectMode where
  /-- It equals itself only. -/
  | plain
  /-- It equals itself only, and counts as false. -/
  | falsy
  /-- Comparing it fails. -/
  | refusing
  /-- It equals everything. -/
  | universal
deriving DecidableEq, Inhabited

mutual

/-- The kinds of exceptions. -/
inductive ExceptionKind where
  | schemaError
  | valueError
  | keyError
  | lookupError
  | indexError
  | runtimeError
  | recursionError
  | typeError
  | attributeError
  | overflowError
  | unicodeError
  | unicodeDecodeError
  | invalidOperation
  | exception
  | assertionError
  | baseException
  | keyboardInterrupt
  | systemExit
  /-- A kind of the program's own. Its exceptions report an ordinary error or not, and may
      write themselves: standing alone, and inside a container. -/
  | own (name : String) (isOrdinary : Bool) (plain quoted : Option Writing)

/-- What an object gives that writes itself. -/
inductive Writing where
  /-- A text. -/
  | text (s : String)
  /-- An exception, which it raises. -/
  | refused (id : Identity) (kind : ExceptionKind) (arguments : List Value)

/-- An untyped value. -/
inductive Value where
  /-- A value that does not exist, such as a field that is missing. -/
  | undefined
  /-- The value that stands for nothing. -/
  | null
  | bool (b : Bool)
  | int (n : Int)
  | float (id : Identity) (x : Binary64)
  | fraction (q : Rat)
  | decimal (id : Identity) (d : Scientific)
  | text (s : String)
  | bytes (bs : List UInt8)
  /-- A point in time. -/
  | dateTime (t : DateTime)
  /-- A point in time out of a column of a table. -/
  | timestamp (t : DateTime)
  | date (d : Date)
  | list (id : Identity) (items : List Value)
  | tuple (id : Identity) (items : List Value)
  | dict (id : Identity) (entries : List (Value × Value))
  /-- A read-only mapping. -/
  | view (id : Identity) (entries : List (Value × Value))
  /-- A mapping for which the order of its entries counts. -/
  | ordered (id : Identity) (entries : List (Value × Value))
  | set (id : Identity) (items : List Value)
  | frozenSet (id : Identity) (items : List Value)
  /-- A function with a name, taking any arguments and returning nothing. -/
  | function (id : Identity) (name : String)
  /-- Something else that can be called, with the text it is written as. -/
  | callable (id : Identity) (text : String)
  /-- A class. -/
  | builtin (c : BuiltinClass)
  /-- A class of containers with what the containers are said to hold. -/
  | applied (c : BuiltinClass) (arguments : List Value)
  /-- An object about which nothing is known but how it is written. -/
  | object (id : Identity) (written : Writing) (mode : ObjectMode)
  | exception (id : Identity) (kind : ExceptionKind) (arguments : List Value)

end

namespace ExceptionKind

instance : Inhabited ExceptionKind :=
  ⟨.exception⟩

/-- An exception whose text hides its arguments. -/
def sealed : ExceptionKind :=
  own "Opaque" true (some (.text "opaque")) none

/-- The name of a kind. -/
def name : ExceptionKind → String
  | schemaError => "SchemaError"
  | valueError => "ValueError"
  | keyError => "KeyError"
  | lookupError => "LookupError"
  | indexError => "IndexError"
  | runtimeError => "RuntimeError"
  | recursionError => "RecursionError"
  | typeError => "TypeError"
  | attributeError => "AttributeError"
  | overflowError => "OverflowError"
  | unicodeError => "UnicodeError"
  | unicodeDecodeError => "UnicodeDecodeError"
  | invalidOperation => "InvalidOperation"
  | exception => "Exception"
  | assertionError => "AssertionError"
  | baseException => "BaseException"
  | keyboardInterrupt => "KeyboardInterrupt"
  | systemExit => "SystemExit"
  | own name _ _ _ => name

/-- Whether an exception of the kind reports an ordinary error. The others ask
    the program to stop and are not to be caught. -/
def isOrdinary : ExceptionKind → Bool
  | baseException | keyboardInterrupt | systemExit => false
  | own _ isOrdinary _ _ => isOrdinary
  | _ => true

end ExceptionKind

instance : Inhabited Value :=
  ⟨.undefined⟩

instance : Coe String Value :=
  ⟨.text⟩

instance : Coe String Writing :=
  ⟨.text⟩

namespace Value

/-- Whether two values are one object. Values without an identity are one if they
    are equal, and so are all empty tuples. -/
def isSame : Value → Value → Bool
  | undefined, undefined => true
  | null, null => true
  | bool a, bool b => a = b
  | int m, int n => m = n
  | float i x, float j y => i = j && x = y
  | fraction p, fraction q => p = q
  | decimal i c, decimal j d => i = j && c = d
  | text s, text t => s = t
  | bytes bs, bytes cs => bs = cs
  | dateTime s, dateTime t => s = t
  | timestamp s, timestamp t => s = t
  | date c, date d => c = d
  | list i _, list j _ => i = j
  | tuple i xs, tuple j ys => if xs.isEmpty || ys.isEmpty then xs.isEmpty && ys.isEmpty else i = j
  | dict i _, dict j _ => i = j
  | view i _, view j _ => i = j
  | ordered i _, ordered j _ => i = j
  | set i _, set j _ => i = j
  | frozenSet i _, frozenSet j _ => i = j
  | function i _, function j _ => i = j
  | callable i _, callable j _ => i = j
  | builtin c, builtin d => c = d
  | object i _ _, object j _ _ => i = j
  | exception i _ _, exception j _ _ => i = j
  | _, _ => false

/-- Whether a value is a list or a tuple. -/
def isArray : Value → Bool
  | list .. | tuple .. => true
  | _ => false

/-- The items of a list or tuple. -/
def array? : Value → Option (List Value)
  | list _ items | tuple _ items => some items
  | _ => none

/-- The entries of a mapping. -/
def mapping? : Value → Option (List (Value × Value))
  | dict _ entries | view _ entries | ordered _ entries => some entries
  | _ => none

/-- Whether a value is a text. -/
def isText : Value → Bool
  | text _ => true
  | _ => false

/-- Whether a value is a boolean. -/
def isBoolean : Value → Bool
  | bool _ => true
  | _ => false

/-- Whether a value is a real number. A boolean is not one, nor is a decimal. -/
def isNumber : Value → Bool
  | int _ | float .. | fraction _ => true
  | _ => false

/-- Whether a value is a point in time. -/
def isDateTime : Value → Bool
  | dateTime _ | timestamp _ => true
  | _ => false

/-- Whether a value exists and is not the one that stands for nothing. -/
def isPresent : Value → Bool
  | undefined | null => false
  | _ => true

/-- Whether a value can be called. -/
def isCallable : Value → Bool
  | function .. | callable .. | builtin _ | applied .. => true
  | _ => false

/-- The exact worth of a real number or a boolean. -/
def worth? : Value → Option Extended
  | bool b => some (.ofInt (if b then 1 else 0))
  | int n => some (.ofInt n)
  | float _ x => some x.worth
  | fraction q => some (.finite q)
  | _ => none

/-- Whether a value takes part in arithmetic: real numbers, booleans and decimals. -/
def isNumeric : Value → Bool
  | bool _ | int _ | float .. | fraction _ | decimal .. => true
  | _ => false

/-- Whether two values take part in arithmetic and are worth the same. -/
def sameWorth (a b : Value) : Bool :=
  match a, b with
  | decimal _ c, decimal _ d => c.beq d
  | decimal _ c, b => b.worth?.any c.beqOf
  | a, decimal _ d => a.worth?.any d.beqOf
  | a, b =>
    match a.worth?, b.worth? with
    | some p, some q => p.beq q
    | _, _ => false

/-- Whether a value counts as true. Nothing, zero and everything empty do not. -/
def isTruthy : Value → Bool
  | undefined | null => false
  | bool b => b
  | int n => n ≠ 0
  | float _ x => !x.worth.isZero
  | fraction q => q ≠ 0
  | decimal _ d => !d.isZero
  | text s => s ≠ ""
  | bytes bs => !bs.isEmpty
  | list _ items | tuple _ items | set _ items | frozenSet _ items => !items.isEmpty
  | dict _ entries | view _ entries | ordered _ entries => !entries.isEmpty
  | object _ _ mode => mode ≠ .falsy
  | _ => true

/-- A natural number in decimal digits. -/
def natural (n : Nat) : String :=
  String.ofList (Digits.write n)

/-- The name of the class of a value. -/
def className : Value → String
  | undefined => "_Undefined"
  | null => "NoneType"
  | bool _ => "bool"
  | int _ => "int"
  | float .. => "float"
  | fraction _ => "Fraction"
  | decimal .. => "decimal.Decimal"
  | text _ => "str"
  | bytes _ => "bytes"
  | dateTime _ => "datetime.datetime"
  | timestamp _ => "Timestamp"
  | date _ => "datetime.date"
  | list .. => "list"
  | tuple .. => "tuple"
  | dict .. => "dict"
  | view .. => "mappingproxy"
  | ordered .. => "collections.OrderedDict"
  | set .. => "set"
  | frozenSet .. => "frozenset"
  | function .. => "function"
  | callable .. => "Callable"
  | builtin _ => "type"
  | applied .. => "types.GenericAlias"
  | object .. => "Opaque"
  | exception _ kind _ => kind.name

end Value

end Attest
