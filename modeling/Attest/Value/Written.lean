import Attest.Number.Grouped
import Attest.Number.Shortest
import Attest.Text.Quoted
import Attest.Value.Fault

/-!
# Written Values

Values as text.

A value has two written forms. Inside a container it is *quoted*, so that a text
can be told apart from the number it spells and the end of an element is
visible. Standing alone it is *plain*: a text is itself. Apart from texts, the
two forms differ only for points in time, numbers of the exact formats, read-only
mappings, exceptions and the value that does not exist.

Not every value has a written form. An integer of too many digits has none, and an object
that writes itself may refuse to. What holds such a value is not written either, so
writing goes from left to right and ends at the first fault.

Messages name a value by its diagnostic kind and its plain form, between angle
brackets.

## Main definitions

* `Value.decimalForm`: An integer in decimal digits.
* `Writing.form`: What an object gives that writes itself.
* `Value.quoted`: The form inside a container.
* `Value.plain`: The form of a value that stands alone.
* `Value.kindLabel`: The diagnostic kind of a value.
* `Value.shown`: A value as messages name it.
-/

namespace Attest

namespace Value

/-- Texts one after another, separated by a comma and a blank. -/
def commaList (texts : List String) : String :=
  ", ".intercalate texts

/-- Texts between parentheses; a comma marks a single one. -/
def parenthesised : List String → String
  | [s] => "(" ++ s ++ ",)"
  | texts => "(" ++ commaList texts ++ ")"

/-- Texts between braces. -/
def braced (texts : List String) : String :=
  "\x7b" ++ commaList texts ++ "\x7d"

/-- Texts after the name of what holds them, each pair between parentheses. -/
def pairsOf (name : String) (pairs : List (String × String)) : String :=
  let between := fun (pair : String × String) => "(" ++ pair.1 ++ ", " ++ pair.2 ++ ")"
  if pairs.isEmpty then name ++ "()" else name ++ "([" ++ commaList (pairs.map between) ++ "])"

/-- Pairs of texts between braces, the second one of each behind a colon. -/
def bracedPairs (pairs : List (String × String)) : String :=
  braced (pairs.map fun pair => pair.1 ++ ": " ++ pair.2)

/-- An integer in decimal digits, unless there are too many of them. -/
def decimalForm (n : Int) : Except Fault String :=
  if Grouped.mostDigits < Digits.count n.natAbs then .error .integerTooLong
  else .ok (String.ofList (Digits.ofInt n))

/-- A rational as numerator and denominator, the latter only if it is not one. -/
def ratio (q : Rat) : Except Fault String := do
  let numerator ← decimalForm q.num
  if q.den = 1 then return numerator else return numerator ++ "/" ++ (← decimalForm q.den)

/-- The distance from universal time as a quoted point in time has it: zero has a
    name of its own, and a negative one is a number of days with seconds that
    count forward. -/
def zoneForm (offset : Int) : String :=
  if offset = 0 then "datetime.timezone.utc"
  else
    let seconds := "seconds=" ++ String.ofList (Digits.ofInt (offset % 86400))
    let days := "days=" ++ String.ofList (Digits.ofInt (offset / 86400))
    let parts :=
      (if offset / 86400 = 0 then [] else [days]) ++ (if offset % 86400 = 0 then [] else [seconds])
    "datetime.timezone(datetime.timedelta(" ++ commaList parts ++ "))"

/-- A quoted point in time: its fields, where second and fraction are left out
    from the right if they are zero. -/
def dateTimeForm (t : DateTime) : String :=
  let micro := t.time.nanosecond / 1000
  let fields := [t.date.year, t.date.month, t.date.day, t.time.hour, t.time.minute] ++
    (if micro = 0 then (if t.time.second = 0 then [] else [t.time.second])
      else [t.time.second, micro])
  let zone := match t.offset with
    | some offset => ["tzinfo=" ++ zoneForm offset]
    | none => []
  "datetime.datetime(" ++ commaList (fields.map natural ++ zone) ++ ")"

/-- A quoted day. -/
def dateForm (d : Date) : String :=
  "datetime.date(" ++ commaList ([d.year, d.month, d.day].map natural) ++ ")"

end Value

/-- What an object gives that writes itself, or the fault that it leaves behind. -/
def Writing.form : Writing → Except Fault String
  | text s => .ok s
  | refused id kind arguments => .error (.unwritable id kind arguments)

namespace Value

mutual

/-- The form of a value inside a container. -/
def quoted : Value → Except Fault String
  | undefined => .ok "UNDEFINED"
  | null => .ok "None"
  | bool b => .ok (if b then "True" else "False")
  | int n => decimalForm n
  | float _ x => .ok x.text
  | fraction q => do
    let numerator ← decimalForm q.num
    return "Fraction(" ++ commaList [numerator, ← decimalForm q.den] ++ ")"
  | decimal _ d => .ok ("Decimal('" ++ d.text ++ "')")
  | text s => .ok (Text.quoted s)
  | bytes bs => .ok (Text.quotedBytes bs)
  | dateTime t => .ok (dateTimeForm t)
  | timestamp t => .ok ("Timestamp('" ++ t.write ' ' ++ "')")
  | date d => .ok (dateForm d)
  | list _ items => do return "[" ++ commaList (← quotedAll items) ++ "]"
  | tuple _ items => do return parenthesised (← quotedAll items)
  | dict _ entries => do return bracedPairs (← quotedEntries entries)
  | view _ entries => do return "mappingproxy(" ++ bracedPairs (← quotedEntries entries) ++ ")"
  | ordered _ entries => do return pairsOf "OrderedDict" (← quotedEntries entries)
  | set _ items => do
    let texts ← quotedAll items
    return if items.isEmpty then "set()" else braced texts
  | frozenSet _ items => do
    let texts ← quotedAll items
    return if items.isEmpty then "frozenset()" else "frozenset(" ++ braced texts ++ ")"
  | function _ name => .ok ("<function " ++ name ++ ">")
  | callable _ s => .ok s
  | builtin c => .ok ("<class '" ++ c.name ++ "'>")
  | applied c arguments => do return c.name ++ "[" ++ commaList (← quotedAll arguments) ++ "]"
  | object _ written _ => written.form
  | exception _ (.own _ _ _ (some written)) _ => written.form
  | exception _ kind arguments => do
    return kind.name ++ "(" ++ commaList (← quotedAll arguments) ++ ")"

/-- The forms of values inside a container. -/
def quotedAll : List Value → Except Fault (List String)
  | [] => .ok []
  | v :: vs => do
    let form ← quoted v
    return form :: (← quotedAll vs)

/-- The forms of the entries of a mapping, each as those of its key and its value. -/
def quotedEntries : List (Value × Value) → Except Fault (List (String × String))
  | [] => .ok []
  | (key, value) :: entries => do
    let keyForm ← quoted key
    let form ← quoted value
    return (keyForm, form) :: (← quotedEntries entries)

end

/-- The form of a value that stands alone. An exception that does not write itself shows its
    argument, or all of them between parentheses if there are several; one about a key
    shows the key quoted. -/
def plain : Value → Except Fault String
  | undefined => .ok "undefined"
  | text s => .ok s
  | fraction q => ratio q
  | decimal _ d => .ok d.text
  | dateTime t | timestamp t => .ok (t.write ' ')
  | date d => .ok (String.ofList d.text)
  | view _ entries => do return bracedPairs (← quotedEntries entries)
  | exception _ (.own _ _ (some written) _) _ => written.form
  | exception _ _ [] => .ok ""
  | exception _ .keyError [argument] => quoted argument
  | exception _ _ [argument] => plain argument
  | exception _ _ arguments => do return parenthesised (← quotedAll arguments)
  | v => quoted v

/-- The diagnostic kind of a value. -/
def kindLabel : Value → String
  | undefined => "undefined"
  | bool _ => "boolean"
  | int _ | float .. | fraction _ => "number"
  | text _ => "string"
  | function .. | callable .. | applied .. => "function"
  | _ => "object"

/-- The form of a value in a message: as it stands alone, but with booleans and
    nothing in small letters and functions by their name. -/
def scalar : Value → Except Fault String
  | bool b => .ok (if b then "true" else "false")
  | null => .ok "null"
  | function id name => if name = "" then quoted (function id name) else .ok name
  | applied c _ => .ok c.name
  | v => plain v

/-- A value as messages name it. -/
def shown : Value → Except Fault String
  | undefined => .ok "<undefined>"
  | null => .ok "<null>"
  | v => do return "<" ++ v.kindLabel ++ ":" ++ (← v.scalar) ++ ">"

end Value

end Attest
