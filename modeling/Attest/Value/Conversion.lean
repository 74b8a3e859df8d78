import Attest.Number.Grouped
import Attest.Text.Encoding
import Attest.Value.Sequence
import Attest.Value.Written

/-!
# Conversion of Values

Calling a class with a value converts the value to it, where that is possible.
Called with nothing, a class gives its empty value.

Two classes take a second value. That of integers takes the base of a numeral, and
the class of texts takes the name of the encoding of a byte string. The other classes
refuse a second value, whatever it is.

## Main definitions

* `BuiltinClass.empty`: The empty value of a class.
* `BuiltinClass.convert`: A value converted to a class.
* `BuiltinClass.convertBy`: A value converted to a class with the help of another one.
-/

namespace Attest

namespace BuiltinClass

/-- The empty value of a class. -/
def empty : BuiltinClass → Value
  | mapping => .dict .converted []
  | text => .text ""
  | integer => .int 0
  | list => .list .converted []
  | boolean => .bool false
  | floating => .float .converted (Binary64.zero false)

/-- A rational without its fraction. -/
def truncated (q : Rat) : Int :=
  if q < 0 then -((-q).floor) else q.floor

/-- The characters of a text, or of a byte string that is read as one. A byte outside of
    ASCII is no character of a numeral. -/
def numeralOf : Value → Option (List Char)
  | .text s => some s.toList
  | .bytes bs => some (bs.map fun b => if b < 0x80 then Char.ofNat b.toNat else '\ufffd')
  | _ => none

/-- The quoted form of a text or byte string. -/
def quotedNumeral : Value → String
  | .text s => Text.quoted s
  | .bytes bs => Text.quotedBytes bs
  | _ => ""

/-- The integer that the characters of a value denote in a base. -/
def readInteger (base : Nat) (v : Value) (cs : List Char) : Except Fault Value :=
  match Grouped.integer base cs with
  | .ok n => .ok (.int n)
  | .error .malformed => .error (.noInteger base (quotedNumeral v))
  | .error (.tooLong digits) => .error (.numeralTooLong digits)

/-- The integer that a decimal is without its fraction. -/
def integerOfDecimal : Scientific → Except Fault Value
  | .finite negative coefficient exponent =>
    .ok (.int (Scientific.truncated negative coefficient exponent))
  | .infinite _ => .error (.integerOfInfinity "Infinity")
  | .nan .. => .error (.integerOfNaN "NaN")

/-- The integer that a worth is without its fraction. -/
def integerOfWorth : Extended → Except Fault Value
  | .finite q => .ok (.int (truncated q))
  | .infinite _ => .error (.integerOfInfinity "float infinity")
  | .nan => .error (.integerOfNaN "float NaN")

/-- A value as an integer: read, if it is a text or byte string, or else without its
    fraction. -/
def toInteger (v : Value) : Except Fault Value :=
  match v, numeralOf v, v.worth? with
  | _, some cs, _ => readInteger 10 v cs
  | .decimal _ d, _, _ => integerOfDecimal d
  | _, _, some x => integerOfWorth x
  | v, none, none => .error (.notIntegral v.className)

/-- A finite floating number, or a fault. -/
def unlessInfinite (x : Binary64) (f : Fault) : Except Fault Value :=
  if x.isInfinite then .error f else .ok (.float .converted x)

/-- The floating number nearest to a decimal; a zero keeps its sign, and a decimal that
    is too large is infinite. -/
def floatingOfDecimal : Scientific → Except Fault Value
  | .finite negative coefficient exponent =>
    .ok (.float .converted (Binary64.ofScientific negative coefficient exponent))
  | .infinite negative => .ok (.float .converted (.infinite negative))
  | .nan _ signalling _ =>
    if signalling then .error .floatingOfSignalling else .ok (.float .converted .nan)

/-- The floating number nearest to a number, where `fault` says what is wrong with a
    value that is none. -/
def nearestFloating (v : Value) (fault : Fault) : Except Fault Value :=
  match v with
  | .float id x => .ok (.float id x)
  | .decimal _ d => floatingOfDecimal d
  | .bool b => .ok (.float .converted (Binary64.ofInt (if b then 1 else 0)))
  | .int n => unlessInfinite (Binary64.ofInt n) .integerTooLarge
  | .fraction q => unlessInfinite (Binary64.ofRat q) .quotientTooLarge
  | _ => .error fault

/-- A value as a floating number: read, if it is a text or byte string, or else the
    nearest one. -/
def toFloating (v : Value) : Except Fault Value :=
  match numeralOf v with
  | some cs =>
    match Grouped.floating? cs with
    | some x => .ok (.float .converted x)
    | none => .error (.noFloating (quotedNumeral v))
  | none => nearestFloating v (.notFloating v.className)

/-- The entry that the element at a position spells out: a key that can be one, and a
    value. -/
def entryOf (position : Nat) (pair : Value) : Except Fault (Value × Value) :=
  match pair.elements with
  | .ok [key, value] => do
    key.hashable
    .ok (key, value)
  | .ok items => .error (.badPair position items.length)
  | .error _ => .error (.notPair position)

/-- The entries that elements spell out, the first of which has the given position. -/
def entriesFrom (position : Nat) : List Value → Except Fault (List (Value × Value))
  | [] => .ok []
  | pair :: pairs => do
    let entry ← entryOf position pair
    .ok (entry :: (← entriesFrom (position + 1) pairs))

/-- The entries of a mapping, or those that pairs spell out. The class of mappings has
    the method that gives keys, but no keys. -/
def entriesOf (v : Value) : Except Fault (List (Value × Value)) :=
  match v, v.mapping? with
  | _, some entries => .ok entries
  | .builtin .mapping, _ => .error (.unboundMethod "dict" "keys")
  | v, none => do .ok (Entries.ofList (← entriesFrom 0 (← v.elements)))

/-- A value converted to a class. -/
def convert : BuiltinClass → Value → Except Fault Value
  | boolean, v => .ok (.bool v.isTruthy)
  | text, v => do .ok (.text (← v.plain))
  | list, v => do .ok (.list .converted (← v.elements))
  | mapping, v => do .ok (.dict .converted (← entriesOf v))
  | integer, v => toInteger v
  | floating, v => toFloating v

/-- The base that a value gives. -/
def baseOf (v : Value) : Except Fault Nat := do
  let base : Int ← match v with
    | .int n => .ok n
    | .bool b => .ok (if b then 1 else 0)
    | v => .error (.notIndex v.className)
  if base = 0 ∨ (2 ≤ base ∧ base ≤ 36) then .ok base.toNat else .error .badBase

/-- The integer that a text or byte string denotes in a base. -/
def toIntegerIn (v base : Value) : Except Fault Value := do
  let base ← baseOf base
  match numeralOf v with
  | some cs => readInteger base v cs
  | none => .error .baseWithoutNumeral

/-- The name that a value gives, as the name of an encoding. -/
def encodingName : Value → Except Fault String
  | .text s => if s.contains '\x00' then .error .embeddedZero else .ok s
  | .null => .error (.notEncodingName "None")
  | v => .error (.notEncodingName v.className)

/-- The text of code points. If one of them is a surrogate that stands alone, there is no
    such text, and only its quoted form is kept. -/
def textOfPoints (points : List Nat) : Value :=
  if points.all (·.isValidChar) then .text (String.ofList (points.map Char.ofNat))
  else .object .converted (.text (Text.quotedPoints points)) .plain

/-- A byte string as text, by the name of the encoding. If there is nothing to decode, the
    name may be any. -/
def decoded (bs : List UInt8) (name : String) : Except Fault Value :=
  if bs.isEmpty then .ok (.text "")
  else match Text.Encoding.named? name with
    | none => .error (.unknownEncoding name)
    | some encoding =>
      match encoding.decode bs with
      | .ok points => .ok (textOfPoints points)
      | .error refusal => .error (.undecodable name refusal)

/-- The text of a byte string in an encoding. -/
def toTextIn (v encoding : Value) : Except Fault Value := do
  let name ← encodingName encoding
  match v with
  | .bytes bs => decoded bs name
  | .text _ => .error .alreadyText
  | v => .error (.notDecodable v.className)

/-- A value converted to a class with the help of another one, if the class takes one. -/
def convertBy : BuiltinClass → Value → Value → Except Fault Value
  | integer, v, base => toIntegerIn v base
  | text, v, encoding => toTextIn v encoding
  | c, _, _ => .error (.surplusArguments c.name 2)

end BuiltinClass

end Attest
