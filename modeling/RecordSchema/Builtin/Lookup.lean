import RecordSchema.Builtin.Names
import RecordSchema.Builtin.Other
import RecordSchema.Builtin.Plain

/-! # Attributes of values and classes

An attribute of a value is one of its parts, or else a member of its class that is attached to the
value. An attribute of a class is something that every class has, such as its name, or else a member
that the class gives to its instances, shown as such.
-/
namespace RecordSchema

namespace BuiltinClass

def find? (name : String) : Option BuiltinClass :=
  (plainClasses ++ otherClasses).find? fun c => c.name == name

/-- The kind of a member that a class itself gives. -/
def kindOf? (c : BuiltinClass) (member : String) : Option MemberKind :=
  if member = "" then none else
  [(c.methods, MemberKind.method), (c.functions, .function), (c.operators, .operator),
    (c.computed, .computed), (c.kept, .kept), (c.bound, .bound),
    (c.absent, .absent)].findSome? fun m =>
      if (Text.words m.1).contains member then some m.2 else none

end BuiltinClass

namespace Builtin

/-- The full name of a class. -/
def fullName (c : ClassName) : String :=
  if ["datetime", "enum"].contains c.module then c.full else c.name

/-- The class of a full name. -/
def classNamed (full : String) : ClassName :=
  match Text.cutLast? '.' full with
  | some (module, name) => ⟨module, name⟩
  | none => ⟨"builtins", full⟩

/-- A class and its ancestors, nearest first, by their full names. -/
def lineage (full : String) : List String :=
  match BuiltinClass.find? full with
  | some c => full :: c.ancestors
  | none => full :: errorLineage full

/-- The nearest class of a lineage that gives a member, and the kind of the member. -/
def memberOf? (lineage : List String) (member : String) : Option (String × MemberKind) :=
  lineage.findSome? fun name =>
    (BuiltinClass.find? name).bind fun c => (c.kindOf? member).map fun k => (name, k)

/-- A function that a class is written with. -/
def functionOf (owner member : String) : Value :=
  .thing "function" ("<function " ++ Value.bareName owner ++ "." ++ member ++ ">")

/-- A function that is bound to what it belongs to. -/
def boundFunction (owner member : String) : Value :=
  .thing "method" ("<bound method " ++ Value.bareName owner ++ "." ++ member ++ ">")

/-- A member as its class shows it. -/
def unattached (owner member : String) : MemberKind → Value
  | .method => .thing "method_descriptor" ("<method '" ++ member ++ "' of '" ++ owner ++ "' objects>")
  | .function => functionOf owner member
  | .operator =>
    .thing "wrapper_descriptor" ("<slot wrapper '" ++ member ++ "' of '" ++ owner ++ "' objects>")
  | .computed =>
    .thing "getset_descriptor" ("<attribute '" ++ member ++ "' of '" ++ owner ++ "' objects>")
  | .kept =>
    .thing "member_descriptor" ("<member '" ++ member ++ "' of '" ++ owner ++ "' objects>")
  | .bound => .thing "builtin_function_or_method" ("<built-in method " ++ member ++ " of type object>")
  | .absent => .null

/-- A member attached to an instance; none where it would be a part of the instance. -/
def attached? (owner member : String) : MemberKind → Option Value
  | .method | .bound =>
    some (.thing "builtin_function_or_method"
      ("<built-in method " ++ member ++ " of " ++ owner ++ " object>"))
  | .function => some (boundFunction owner member)
  | .operator =>
    some (.thing "method-wrapper" ("<method-wrapper '" ++ member ++ "' of " ++ owner ++ " object>"))
  | .absent => some .null
  | .computed | .kept => none

def greatestSpan : Int := 86399999999999999999

def midnight : ClockTime := ⟨0, 0, 0, 0⟩

def lastClock : ClockTime := ⟨23, 59, 59, 999999⟩

/-- The values that classes of times hold for all their instances. -/
def classValues : List (String × List (String × Value)) := [
  ("datetime.timedelta", [("min", .duration (-86399999913600000000)),
    ("max", .duration greatestSpan), ("resolution", .duration 1)]),
  ("datetime.date", [("min", .date ⟨1, 1, 1⟩), ("max", .date ⟨9999, 12, 31⟩),
    ("resolution", .duration 86400000000)]),
  ("datetime.datetime", [("min", .moment ⟨1, 1, 1⟩ midnight none),
    ("max", .moment ⟨9999, 12, 31⟩ lastClock none), ("resolution", .duration 1)]),
  ("datetime.time", [("min", .time midnight), ("max", .time lastClock),
    ("resolution", .duration 1)])]

def classValue? (lineage : List String) (name : String) : Option Value :=
  lineage.findSome? fun c => (classValues.lookup c).bind fun vs => vs.lookup name

def intPart? (i : Int) (name : String) : Option Value :=
  ([("real", i), ("imag", 0), ("numerator", i), ("denominator", 1)].lookup name).map .int

def dayParts (d : Date) : List (String × Int) :=
  [("year", d.year), ("month", d.month), ("day", d.day)]

def clockPartValues (t : ClockTime) : List (String × Int) :=
  [("hour", t.hour), ("minute", t.minute), ("second", t.second), ("microsecond", t.microsecond)]

/-- The parts of a value that have names. -/
def part? (name : String) : Value → Option Value
  | .int i => intPart? i name
  | .bool b => intPart? (if b then 1 else 0) name
  | .float x =>
    if name = "real" then some (.float x)
    else if name = "imag" then some (.float (.finite false 0 0)) else none
  | .duration us =>
    let s := DaySpan.ofMicroseconds us
    ([("days", s.days), ("seconds", s.seconds), ("microseconds", s.microseconds)].lookup name).map
      .int
  | .date d => ((dayParts d).lookup name).map .int
  | .time t => ((clockPartValues t).lookup name).map .int
  | .moment d t _ => ((dayParts d ++ clockPartValues t).lookup name).map .int
  | .field facts => facts.lookup name
  | _ => none

/-- What a function says about itself. -/
def functionFact? (v : Value) (name : String) : Option Value :=
  v.functionName?.bind fun f =>
    [("__name__", Value.text f), ("__qualname__", .text f), ("__module__", .text "builtins")].lookup
      name

/-- The class of a value. -/
def classOf (v : Value) : ClassName :=
  match v with
  | .index .. | .object _ => ⟨"records", v.typeName⟩
  | _ => classNamed v.typeName

/-- An attribute of an instance of a class with the given lineage. -/
def member? (lineage : List String) (member : String) : Option Value :=
  match classValue? lineage member with
  | some v => some v
  | none => (memberOf? lineage member).bind fun m => attached? (lineage.headD "object") member m.2

/-- What every class says about itself. -/
def classFact? (c : ClassName) (parent : Option ClassName) (name : String) : Option Value :=
  [("__name__", .text (Value.bareName c.name)), ("__qualname__", .text c.name),
    ("__module__", .text c.module), ("__class__", .cls ⟨"builtins", Value.metaName c⟩),
    ("__base__", (parent.map Value.cls).getD .null),
    ("__bases__", .tuple (parent.toList.map .cls)),
    ("__dict__", .thing "mappingproxy" "mappingproxy(\x7b\x7d)")].lookup name

/-- What a class can do by being a class. -/
def classMember? (name : String) : Option Value :=
  (memberOf? ["type", "object"] name).bind fun m => attached? "type" name m.2

/-- What a class gives to its instances, as the class itself shows it. -/
def inherited? (lineage : List String) (name : String) : Option Value :=
  match classValue? lineage name with
  | some v => some v
  | none => (memberOf? lineage name).map fun m => unattached m.1 name m.2

/-- An attribute of a class that is not made by a module of records. -/
def classAttribute? (c : ClassName) (name : String) : Option Value :=
  let lineage := lineage (fullName c)
  let facts := classFact? c ((lineage.drop 1).head?.map classNamed) name
  let order : Option Value :=
    if name = "__mro__" then some (.tuple (lineage.map fun n => .cls (classNamed n))) else none
  (facts.or order).or ((inherited? lineage name).or (classMember? name))

/-- An attribute of a value. -/
def attribute? (v : Value) (name : String) : Option Value :=
  match v with
  | .cls c => classAttribute? c name
  | v =>
    if name = "__class__" then some (.cls (classOf v))
    else ((functionFact? v name).or (part? name v)).or (member? (lineage v.typeName) name)

/-- How an error names what lacks an attribute. -/
def ownerText : Value → String
  | .cls c => "type object '" ++ fullName c ++ "'"
  | v => "'" ++ v.typeName ++ "' object"

end Builtin

end RecordSchema
