import Attest.Text.Decoder
import Attest.Text.Template
import Attest.Value.Basic

/-!
# Misuse of Values

What goes wrong when an operation meets a value it is not made for: asking a
number for its length, calling a text, looking up a key that is not there, reading a
number from a text that spells none, writing a number that is too long.

A fault is a cause, with the names of the classes involved and, where the report
quotes it, the text. Its kind and its wording are derived from the cause, in one
place each. Only two faults hold a value themselves. One is about a key, which its
exception holds; the other is an exception that an object raised where it was to
write itself.

## Main definitions

* `Fault`: The causes.
* `Fault.kind`: The kind of exception that a fault is reported as.
* `Fault.arguments`: What the exception holds.
* `Fault.IsUnwritable`: A fault comes from writing something.
-/

namespace Attest

/-- Why an operation refused a value. -/
inductive Fault where
  /-- Calling something that is not a function. -/
  | notCallable (className : String)
  /-- Calling a function with a number of arguments it does not take. -/
  | wrongArguments
  /-- Calling a function of one argument with several. -/
  | tooManyArguments (function : String) (given : Nat)
  /-- Calling a function that takes exactly one argument with another number of them. -/
  | notOneArgument (function : String) (given : Nat)
  /-- Calling a class that takes at most one argument with several. -/
  | surplusArguments (className : String) (given : Nat)
  /-- Going through the elements of something that has none. -/
  | notIterable (className : String)
  /-- Asking for membership in something that has no members. -/
  | notContainer (className : String)
  /-- Asking a text whether it contains something that is not a text. -/
  | notSearchable (container className : String)
  /-- Asking a byte string whether it contains something that is neither a byte nor a
      byte string. -/
  | notByteString (className : String)
  /-- Asking a byte string whether it contains a number that is no byte. -/
  | notByte
  /-- Asking for the length of something that has none. -/
  | noLength (className : String)
  /-- Asking for a method that an object or a class does not have. -/
  | noMethod (subject method : String)
  /-- Calling a method of a class without an object. -/
  | unboundMethod (className method : String)
  /-- Looking something up in a value that holds nothing. -/
  | notSubscriptable (className : String)
  /-- Looking something up in a class whose values hold nothing. -/
  | classNotSubscriptable (className : String)
  /-- Looking something up in a text by a key that is not a position. -/
  | badTextPosition (keyClass : String)
  /-- Looking something up in another sequence by a key that is not a position. -/
  | badPosition (sequence keyClass : String)
  /-- Looking up a position outside of a sequence. -/
  | outOfRange (sequence : String)
  /-- Looking up a position that no sequence has. -/
  | positionTooLarge
  /-- Looking up a key that a mapping does not have. -/
  | missingKey (key : Value)
  /-- Using something mutable as a key. -/
  | unhashable (className : String)
  /-- Using a signalling decimal as a key. -/
  | signallingKey
  /-- Ordering two values that have no common order. -/
  | notOrdered (operator left right : String)
  /-- Comparing a signalling decimal, or ordering what is not a number. -/
  | invalidOperation
  /-- Comparing an object that refuses it. -/
  | refusedComparison
  /-- Dividing something that is not a number. -/
  | noRemainder (left right : String)
  /-- Filling a template that does not take one number. -/
  | template (refusal : Template.Refusal)
  /-- Expecting a real number. -/
  | notReal (className : String)
  /-- Converting something to an integer that is neither a number nor spells one. -/
  | notIntegral (className : String)
  /-- Converting something to a floating number that is neither a number nor spells
      one. -/
  | notFloating (className : String)
  /-- Reading an integer in a base from something that spells none. -/
  | noInteger (base : Nat) (quoted : String)
  /-- Reading a floating number from something that spells none. -/
  | noFloating (quoted : String)
  /-- Reading an integer of too many digits. -/
  | numeralTooLong (digits : Nat)
  /-- Writing an integer of too many digits. -/
  | integerTooLong
  /-- Writing an object that raises an exception instead. -/
  | unwritable (id : Identity) (kind : ExceptionKind) (arguments : List Value)
  /-- Converting what is not a number to an integer. -/
  | integerOfNaN (name : String)
  /-- Converting an infinity to an integer. -/
  | integerOfInfinity (name : String)
  /-- Converting a signalling decimal to a floating number. -/
  | floatingOfSignalling
  /-- Converting an integer that no floating number is near to. -/
  | integerTooLarge
  /-- Converting a quotient that no floating number is near to. -/
  | quotientTooLarge
  /-- Giving a base that is not an integer. -/
  | notIndex (className : String)
  /-- Giving a base in which no numeral is read. -/
  | badBase
  /-- Giving a base for something that is no numeral. -/
  | baseWithoutNumeral
  /-- Building a mapping from elements of which one has no elements itself. -/
  | notPair (position : Nat)
  /-- Building a mapping from elements of which one is not a pair. -/
  | badPair (position length : Nat)
  /-- Giving a name of an encoding that is not a text. -/
  | notEncodingName (description : String)
  /-- Giving a name that holds the character zero. -/
  | embeddedZero
  /-- Decoding a text. -/
  | alreadyText
  /-- Decoding something that is not a byte string. -/
  | notDecodable (className : String)
  /-- Decoding by an encoding that nobody knows. -/
  | unknownEncoding (name : String)
  /-- Decoding a byte string that the encoding refuses. -/
  | undecodable (encoding : String) (refusal : Text.Refusal)
  /-- Joining a text with something that is not one. -/
  | notText (className : String)
  /-- Raising something that is not an exception. -/
  | notException
  /-- Definitions that call each other without end. -/
  | tooDeep

namespace Fault

/-- The kind of exception that a template's refusal is reported as. -/
def kindOfTemplate : Template.Refusal → ExceptionKind
  | .incomplete | .unknownLetter | .tooWide => .valueError
  | .unknownByte => .overflowError
  | .wantsNames | .wantsMore | .wantsNone | .wantsBytes => .typeError

/-- The kind of exception that the refusal of a byte string is reported as. -/
def kindOfRefusal : Text.Refusal → ExceptionKind
  | .badBytes => .unicodeDecodeError
  | .badText => .unicodeError
  | .unusableSet => .runtimeError

/-- The kind of exception that a fault is reported as. -/
def kind : Fault → ExceptionKind
  | noMethod .. => .attributeError
  | outOfRange _ | positionTooLarge => .indexError
  | missingKey _ => .keyError
  | unwritable _ kind _ => kind
  | unknownEncoding _ => .lookupError
  | undecodable _ refusal => kindOfRefusal refusal
  | invalidOperation => .invalidOperation
  | notByte | refusedComparison | noInteger .. | noFloating _ | numeralTooLong _ | integerTooLong
  | integerOfNaN _ | floatingOfSignalling | badBase | badPair .. | embeddedZero => .valueError
  | integerOfInfinity _ | integerTooLarge | quotientTooLarge => .overflowError
  | template refusal => kindOfTemplate refusal
  | tooDeep => .recursionError
  | _ => .typeError

/-- A name between single quotes. -/
def named (name : String) : String :=
  "'" ++ name ++ "'"

/-- How many characters of a numeral are quoted when it is refused. -/
def quotedLength : Nat := 200

/-- The end of the report on an integer of too many digits. -/
def limitAdvice : String :=
  "; use sys.set_int_max_str_digits() to increase the limit"

/-- The opening of the report on an integer of too many digits. -/
def limitExceeded : String :=
  "Exceeds the limit (4300 digits) for integer string conversion"

/-- The wording of a template's refusal. -/
def wordingOfTemplate : Template.Refusal → String
  | .incomplete => "incomplete format"
  | .unknownLetter => "unsupported format character"
  | .unknownByte => "character argument not in range(0x110000)"
  | .tooWide => "width too big"
  | .wantsNames => "format requires a mapping"
  | .wantsMore => "not enough arguments for format string"
  | .wantsNone => "not all arguments converted during string formatting"
  | .wantsBytes => "%b requires a bytes-like object, or an object that implements __bytes__, not 'int'"

/-- The wording of a fault that has one of its own. -/
def wording : Fault → String
  | notCallable c => named c ++ " object is not callable"
  | wrongArguments => "wrong number of arguments"
  | tooManyArguments function given =>
    function ++ "() takes 1 positional argument but " ++ Value.natural given ++ " were given"
  | notOneArgument function given =>
    function ++ "() takes exactly one argument (" ++ Value.natural given ++ " given)"
  | surplusArguments c given => c ++ " expected at most 1 argument, got " ++ Value.natural given
  | notIterable c => named c ++ " object is not iterable"
  | notContainer c => "argument of type " ++ named c ++ " is not iterable"
  | notSearchable container c =>
    "'in <" ++ container ++ ">' requires string as left operand, not " ++ c
  | notByteString c => "a bytes-like object is required, not " ++ named c
  | notByte => "byte must be in range(0, 256)"
  | noLength c => "object of type " ++ named c ++ " has no len()"
  | noMethod subject method => subject ++ " has no attribute " ++ named method
  | unboundMethod c method => "unbound method " ++ c ++ "." ++ method ++ "() needs an argument"
  | notSubscriptable c => named c ++ " object is not subscriptable"
  | classNotSubscriptable c => "type " ++ named c ++ " is not subscriptable"
  | badTextPosition key => "string indices must be integers, not " ++ named key
  | badPosition sequence key => sequence ++ " indices must be integers or slices, not " ++ key
  | outOfRange sequence =>
    (if sequence = "" then "" else sequence ++ " ") ++ "index out of range"
  | positionTooLarge => "cannot fit 'int' into an index-sized integer"
  | unhashable c => "unhashable type: " ++ named c
  | signallingKey => "Cannot hash a signaling NaN value"
  | notOrdered operator left right =>
    named operator ++ " not supported between instances of " ++ named left ++ " and " ++ named right
  | invalidOperation => "[<class 'decimal.InvalidOperation'>]"
  | refusedComparison => "no comparison"
  | noRemainder left right =>
    "unsupported operand type(s) for %: " ++ named left ++ " and " ++ named right
  | template refusal => wordingOfTemplate refusal
  | notReal c => "must be real number, not " ++ c
  | notIntegral c =>
    "int() argument must be a string, a bytes-like object or a real number, not " ++ named c
  | notFloating c => "float() argument must be a string or a real number, not " ++ named c
  | noInteger base quoted =>
    "invalid literal for int() with base " ++ Value.natural base ++ ": " ++
      String.ofList (quoted.toList.take quotedLength)
  | noFloating quoted => "could not convert string to float: " ++ quoted
  | numeralTooLong digits =>
    limitExceeded ++ ": value has " ++ Value.natural digits ++ " digits" ++ limitAdvice
  | integerTooLong => limitExceeded ++ limitAdvice
  | integerOfNaN name => "cannot convert " ++ name ++ " to integer"
  | integerOfInfinity name => "cannot convert " ++ name ++ " to integer"
  | floatingOfSignalling => "cannot convert signaling NaN to float"
  | integerTooLarge => "int too large to convert to float"
  | quotientTooLarge => "integer division result too large for a float"
  | notIndex c => named c ++ " object cannot be interpreted as an integer"
  | badBase => "int() base must be >= 2 and <= 36, or 0"
  | baseWithoutNumeral => "int() can't convert non-string with explicit base"
  | notPair position =>
    "cannot convert dictionary update sequence element #" ++ Value.natural position ++
      " to a sequence"
  | badPair position length =>
    "dictionary update sequence element #" ++ Value.natural position ++ " has length " ++
      Value.natural length ++ "; 2 is required"
  | notEncodingName description => "str() argument 'encoding' must be str, not " ++ description
  | embeddedZero => "embedded null character"
  | alreadyText => "decoding str is not supported"
  | notDecodable c => "decoding to str: need a bytes-like object, " ++ c ++ " found"
  | unknownEncoding name => "unknown encoding: " ++ name
  | undecodable encoding _ => named encoding ++ " codec can't decode the bytes"
  | notText c => "can only concatenate str (not \"" ++ c ++ "\") to str"
  | notException => "exceptions must derive from BaseException"
  | tooDeep => "maximum recursion depth exceeded"
  | missingKey _ | unwritable .. => ""

/-- What the exception of a fault holds: the key that is missing, what the exception that an
    object raised holds, or else the wording. -/
def arguments : Fault → List Value
  | missingKey key => [key]
  | unwritable _ _ arguments => arguments
  | f => [f.wording]

/-- Whether a fault comes from writing something. -/
def IsUnwritable : Fault → Prop
  | integerTooLong | unwritable .. => True
  | _ => False

end Fault

end Attest
