import RecordSchema.Calendar
import RecordSchema.ClassName
import RecordSchema.Decimal.Text
import RecordSchema.Text.Cut
import RecordSchema.Text.Quoted
import RecordSchema.Text.Whole

/-! # Values

What record fields, metadata, annotations and settings tables hold. `Value.shown` is the text that
identifies a value in messages; `Value.toText` differs from it only in leaving text unquoted and in
writing a span of time as a clock. A value that holds a whole number with too many digits has
neither text.
-/
namespace RecordSchema

inductive Value where
  | null
  | bool (b : Bool)
  | int (i : Int)
  | float (x : Decimal.Binary64)
  | text (s : String)
  | bytes (bs : List UInt8)
  | list (items : List Value)
  | tuple (items : List Value)
  | table (entries : List (String × Value))
  /-- A span of time in microseconds. -/
  | duration (microseconds : Int)
  /-- An object that stands for a whole number without being one. -/
  | index (className : String) (i : Int)
  | object (className : String)
  | date (d : Date)
  | time (t : ClockTime)
  | moment (d : Date) (t : ClockTime) (zone : Option Zone)
  | cls (name : ClassName)
  /-- A table that cannot be changed. -/
  | mapping (entries : List (String × Value))
  /-- A field of a record class, by what it says about itself. -/
  | field (facts : List (String × Value))
  /-- Any other object, by the full name of its class and the text that shows it. -/
  | thing (className shown : String)
  /-- Another object that has no text, by the full name of its class. Nothing else tells two of them
  apart. -/
  | unwritten (className : String)
deriving Inhabited, Repr

abbrev Table := List (String × Value)

namespace Value

def boolText (b : Bool) : String := if b then "True" else "False"

/-- The parts of a span that are not zero, each under its name. -/
def spanParts (s : DaySpan) : List String :=
  let part := fun (name : String) (n : Int) => if n = 0 then [] else [name ++ "=" ++ toString n]
  part "days" s.days ++ part "seconds" s.seconds ++ part "microseconds" s.microseconds

def spanShown (s : DaySpan) : String :=
  let parts := spanParts s
  "datetime.timedelta(" ++ (if parts.isEmpty then "0" else String.intercalate ", " parts) ++ ")"

/-- Seconds and microseconds close the list of parts where they are not both zero. -/
def clockParts (t : ClockTime) : List String :=
  let whole := [toString t.hour, toString t.minute]
  if t.microsecond ≠ 0 then whole ++ [toString t.second, toString t.microsecond]
  else if t.second ≠ 0 then whole ++ [toString t.second] else whole

def dateParts (d : Date) : List String := [toString d.year, toString d.month, toString d.day]

def zoneParts : Option Zone → List String
  | none => []
  | some z =>
    ["tzinfo=datetime.timezone(" ++
      spanShown (.ofMicroseconds (z.seconds * microsecondsPerSecond)) ++ ", " ++
      Text.quoted z.name ++ ")"]

def call (name : String) (parts : List String) : String :=
  name ++ "(" ++ String.intercalate ", " parts ++ ")"

/-- A tuple of one item keeps a comma, so that it differs from the item in brackets. -/
def tupleText : List String → String
  | [item] => "(" ++ item ++ ",)"
  | items => "(" ++ String.intercalate ", " items ++ ")"

/-- The text of a table from those of its entries. -/
def tableText (entries : List String) : String :=
  "\x7b" ++ String.intercalate ", " entries ++ "\x7d"

mutual

def shown : Value → Except WriteError String
  | null => .ok "None"
  | bool b => .ok (boolText b)
  | int i => Text.whole i
  | float x => .ok x.text
  | text s => .ok (Text.quoted s)
  | bytes bs => .ok (Text.quotedBytes bs)
  | list items => return "[" ++ String.intercalate ", " (← shownItems items) ++ "]"
  | tuple items => tupleText <$> shownItems items
  | table entries => tableText <$> shownEntries entries
  | duration us => .ok (spanShown (.ofMicroseconds us))
  | index name _ => .ok ("<" ++ name ++ " object>")
  | object name => .ok ("<" ++ name ++ " object>")
  | date d => .ok (call "datetime.date" (dateParts d))
  | time t => .ok (call "datetime.time" (clockParts t))
  | moment d t z => .ok (call "datetime.datetime" (dateParts d ++ clockParts t ++ zoneParts z))
  | cls c => .ok c.shown
  | mapping entries => return "mappingproxy(" ++ tableText (← shownEntries entries) ++ ")"
  | field _ => .ok "Field()"
  | thing _ s => .ok s
  | unwritten _ => .error .tooManyDigits

def shownItems : List Value → Except WriteError (List String)
  | [] => .ok []
  | v :: vs => return (← shown v) :: (← shownItems vs)

def shownEntries : List (String × Value) → Except WriteError (List String)
  | [] => .ok []
  | (k, v) :: rest => return (Text.quoted k ++ ": " ++ (← shown v)) :: (← shownEntries rest)

end

/-- An object of a class that is known by its text, if it has one. -/
def ofText (className : String) : Except WriteError String → Value
  | .ok s => thing className s
  | .error _ => unwritten className

def twoDigits (n : Nat) : String := (if n < 10 then "0" else "") ++ toString n

def padZeros (width : Nat) (n : Nat) : String :=
  let digits := toString n
  String.ofList (List.replicate (width - digits.length) '0') ++ digits

/-- A span of time as days, hours, minutes and seconds. -/
def clockText (s : DaySpan) : String :=
  let seconds := s.seconds.toNat
  let days :=
    if s.days = 0 then ""
    else toString s.days ++ (if s.days.natAbs = 1 then " day, " else " days, ")
  let fraction := if s.microseconds = 0 then "" else "." ++ padZeros 6 s.microseconds.toNat
  days ++ toString (seconds / 3600) ++ ":" ++ twoDigits (seconds / 60 % 60) ++ ":" ++
    twoDigits (seconds % 60) ++ fraction

def dateText (d : Date) : String :=
  padZeros 4 d.year ++ "-" ++ twoDigits d.month ++ "-" ++ twoDigits d.day

def timeText (t : ClockTime) : String :=
  twoDigits t.hour ++ ":" ++ twoDigits t.minute ++ ":" ++ twoDigits t.second ++
    (if t.microsecond = 0 then "" else "." ++ padZeros 6 t.microsecond)

/-- An offset as a sign, hours and minutes, and seconds where they are not zero. -/
def offsetText (z : Zone) : String :=
  let n := z.seconds.natAbs
  (if z.seconds < 0 then "-" else "+") ++ twoDigits (n / 3600) ++ ":" ++ twoDigits (n / 60 % 60) ++
    (if n % 60 = 0 then "" else ":" ++ twoDigits (n % 60))

/-- The text that stands for a value where it is written out as text. -/
def toText : Value → Except WriteError String
  | text s => .ok s
  | duration us => .ok (clockText (.ofMicroseconds us))
  | date d => .ok (dateText d)
  | time t => .ok (timeText t)
  | moment d t z => .ok (dateText d ++ " " ++ timeText t ++ (z.map offsetText).getD "")
  | mapping entries => (table entries).shown
  | v => v.shown

/-- The class of a class: most are made plainly, the abstract containers and the class of anything
have classes of their own. -/
def metaName (c : ClassName) : String :=
  if c.module = "collections.abc" then "ABCMeta"
  else if c = ⟨"typing", "Any"⟩ then "_AnyMeta"
  else "type"

/-- The name of the class of a value, with its module where the class carries one. -/
def typeName : Value → String
  | null => "NoneType"
  | bool _ => "bool"
  | int _ => "int"
  | float _ => "float"
  | text _ => "str"
  | bytes _ => "bytes"
  | list _ => "list"
  | tuple _ => "tuple"
  | table _ => "dict"
  | duration _ => "datetime.timedelta"
  | index name _ => name
  | object name => name
  | date _ => "datetime.date"
  | time _ => "datetime.time"
  | moment .. => "datetime.datetime"
  | cls c => metaName c
  | mapping _ => "mappingproxy"
  | field _ => "Field"
  | thing name _ => name
  | unwritten name => name

/-- What stands behind the last dot of a name. -/
def bareName (name : String) : String :=
  match Text.cutLast? '.' name with
  | some (_, last) => last
  | none => name

/-- What stands in front of the name of a function. -/
def functionMark : List Char := "<built-in function ".toList

/-- The name of a function that is known everywhere. -/
def functionName? : Value → Option String
  | thing "builtin_function_or_method" s =>
    (Text.dropFront? functionMark s.toList).map fun name => String.ofList name.dropLast
  | _ => none

/-- The bare name of the class of a value. -/
def className (v : Value) : String :=
  match v with
  | index .. | object _ => v.typeName
  | _ => bareName v.typeName

/-- Whether a value counts as true: all values do but absence, zeros and what is empty. -/
def isTrue : Value → Bool
  | null => false
  | bool b => b
  | int i => decide (i ≠ 0)
  | float (.finite _ m _) => decide (m ≠ 0)
  | text s => decide (s ≠ "")
  | bytes bs => !bs.isEmpty
  | list items | tuple items => !items.isEmpty
  | table entries | mapping entries => !entries.isEmpty
  | duration us => decide (us ≠ 0)
  | _ => true

/-- The whole number that a value stands for; truth values count as one and zero. -/
def toInt? : Value → Option Int
  | int i => some i
  | bool b => some (if b then 1 else 0)
  | index _ i => some i
  | _ => none

/-- The ratio that a number is; truth values count as one and zero. -/
def ratio? : Value → Option (Int × Nat)
  | bool b => some (if b then 1 else 0, 1)
  | int i => some (i, 1)
  | float (.finite negative m e) =>
    let p := Decimal.power 2 e
    some (if negative then -(m * p.1 : Nat) else (m * p.1 : Nat), p.2)
  | _ => none

/-- Whether two numbers are the same, whatever their classes are. -/
def sameNumber (a b : Value) : Bool :=
  match a.ratio?, b.ratio? with
  | some (m, d), some (n, e) => decide (m * e = n * d)
  | _, _ => false

mutual

/-- Equality of content. Two objects without content are never equal, nor is what is no number equal
to itself; tables are equal if they hold equal values under the same keys. -/
def equal : Value → Value → Bool
  | null, null => true
  | float (.infinite a), float (.infinite b) => a == b
  | text a, text b => a == b
  | bytes a, bytes b => a == b
  | list a, list b => equalItems a b
  | tuple a, tuple b => equalItems a b
  | table a, table b | table a, mapping b | mapping a, table b | mapping a, mapping b
  | field a, field b => a.length == b.length && equalEntries a b
  | duration a, duration b => decide (a = b)
  | date a, date b => decide (a = b)
  | time a, time b => decide (a = b)
  | moment a s y, moment b t z => decide (a = b) && decide (s = t) && decide (y = z)
  | cls a, cls b => a == b
  | thing c a, thing d b => c == d && a == b
  | unwritten c, unwritten d => c == d
  | a, b => sameNumber a b

def equalItems : List Value → List Value → Bool
  | [], [] => true
  | a :: as, b :: bs => equal a b && equalItems as bs
  | _, _ => false

def equalEntries : List (String × Value) → List (String × Value) → Bool
  | [], _ => true
  | (k, a) :: as, bs =>
    (match bs.lookup k with
      | some b => equal a b
      | none => false) && equalEntries as bs

end

/-- Equality of class and content. -/
def same (a b : Value) : Bool := a.typeName == b.typeName && equal a b

mutual

/-- The class of the first part of a value that can change, and so cannot be kept in a set. -/
def changeable? : Value → Option String
  | list _ => some "list"
  | table _ => some "dict"
  | mapping _ => some "mappingproxy"
  | tuple items => firstChangeable? items
  | _ => none

def firstChangeable? : List Value → Option String
  | [] => none
  | v :: vs => (changeable? v).or (firstChangeable? vs)

end

end Value

/-- The value that a table holds under a key. -/
def Table.get? (t : Table) (key : String) : Option Value :=
  (t.find? fun e => e.1 == key).map (·.2)

def Table.keys (t : Table) : List String := t.map (·.1)

end RecordSchema
