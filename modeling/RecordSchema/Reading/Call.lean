import RecordSchema.Reading.Attribute
import RecordSchema.Expression.Relation
import RecordSchema.Record.Instance

/-! # Calls

Few calls can stand where a type is declared: asking for the class of something, making an empty or
converted value of a plain class or an instance of a record, and looking at the text or the length
of a value.
-/
namespace RecordSchema

/-- An instance as a record shows it: its class with the values of its fields. -/
def Instance.shown (i : Instance) : Except WriteError String := do
  let parts ← i.values.mapM fun v => (v.1 ++ "=" ++ ·) <$> v.2.shown
  return Value.call i.cls.name.name parts

namespace TypeExpr

open Expression (Fault)

/-- Whether something counts as true. -/
def isTrue (t : TypeExpr) : Bool := t.toValue.isTrue

/-- The text that something is written out as. -/
def asText (t : TypeExpr) : Except WriteError String := t.toValue.toText

/-- A text that an expression makes, if it can be written. -/
def ofMade (s : Except WriteError String) : Except Fault TypeExpr :=
  forward <$> s.mapError .unwritten

/-- The items of what can be gone through item by item. -/
def items? : TypeExpr → Option (List Value)
  | forward s => some (s.toList.map fun c => .text (String.ofList [c]))
  | value (.list vs) => some vs
  | value (.tuple vs) => some vs
  | value (.bytes bs) => some (bs.map fun b => .int b.toNat)
  | value (.table entries) | value (.mapping entries) => some (entries.map fun e => .text e.1)
  | _ => none

/-- The values that plain classes make without arguments. -/
def emptyValues : List (String × Value) :=
  [("int", .int 0), ("float", .float (.finite false 0 0)), ("bool", .bool false), ("str", .text ""),
    ("bytes", .bytes []), ("list", .list []), ("tuple", .tuple []), ("dict", .table []),
    ("complex", .thing "complex" "0j"), ("set", .thing "set" "set()"),
    ("frozenset", .thing "frozenset" "frozenset()"),
    ("bytearray", .thing "bytearray" "bytearray(b'')")]

/-- What a plain class makes of one argument. -/
def converted (className : String) (t : TypeExpr) : Except Fault TypeExpr :=
  match className, t.items? with
  | "type", _ => .ok (cls (classOf t))
  | "str", _ => ofMade t.asText
  | "bool", _ => .ok (value (.bool t.isTrue))
  | "list", some vs => .ok (value (.list vs))
  | "tuple", some vs => .ok (value (.tuple vs))
  | "int", _ =>
    match Expression.whole? t.toValue with
    | some i => .ok (value (.int i))
    | none => .error .beyondTypes
  | _, _ => .error .beyondTypes

/-- Why some classes make nothing without arguments. -/
def emptyRefusals : List (ClassName × String) :=
  [(⟨"builtins", "type"⟩, "type() takes 1 or 3 arguments"),
    (⟨"typing", "Any"⟩, "Any cannot be instantiated"),
    (⟨"datetime", "date"⟩, "function missing required argument 'year' (pos 1)"),
    (⟨"datetime", "datetime"⟩, "function missing required argument 'year' (pos 1)"),
    (⟨"collections.abc", "Sequence"⟩,
      "Can't instantiate abstract class Sequence with abstract methods __getitem__, __len__")]

/-- What a class makes without arguments. -/
def emptyOf (scope : Scope) (c : ClassName) : Except Fault TypeExpr :=
  match scope.lineage? c with
  | some (own :: ancestors) =>
    match (RecordClass.mk own ancestors scope).make [] with
    | .ok i =>
      -- a field that the instance keeps no value for would be shown by what its class gives
      if i.values.isEmpty || i.values.length < i.cls.fields.length then .error .beyondTypes
      else .ok (value (.ofText c.name i.shown))
    | .error e => .error (.refused e.message)
  | _ =>
    match emptyRefusals.lookup c, emptyValues.lookup c.name with
    | some why, _ => .error (.refused why)
    | none, some v => if c.module = "builtins" then .ok (ofValue v) else .error .beyondTypes
    | none, none =>
      if c = ⟨"datetime", "timedelta"⟩ then .ok (value (.duration 0)) else .error .beyondTypes

def makeOf (scope : Scope) (c : ClassName) (args : List TypeExpr) : Except Fault TypeExpr :=
  match args with
  | [] => emptyOf scope c
  | [t] => if c.module = "builtins" then converted c.name t else .error .beyondTypes
  | _ => .error .beyondTypes

def functionText (name : String) : String := "<built-in function " ++ name ++ ">"

/-- What a function makes of its argument. -/
def applied (shown : String) (t : TypeExpr) : Except Fault TypeExpr :=
  if shown = functionText "repr" then ofMade t.toValue.shown
  else if shown = functionText "len" then
    match t.items? with
    | some vs => .ok (value (.int vs.length))
    | none => .error (.noLength t.typeName)
  else .error .beyondTypes

/-- How many arguments a function takes that takes one. -/
def oneArgument (shown : String) (given : Nat) : Fault :=
  if shown = functionText "len" then
    .refused ("len() takes exactly one argument (" ++ toString given ++ " given)")
  else .beyondTypes

def call (scope : Scope) (callee : TypeExpr) (args : List TypeExpr) : Except Fault TypeExpr :=
  match callee, args with
  | cls c, args => makeOf scope c args
  | generic f _, args => makeOf scope f.origin args
  | synonym .., [t] => .ok t
  | synonym .., _ => .error .beyondTypes
  | value (.thing "builtin_function_or_method" s), [t] => applied s t
  | value (.thing "builtin_function_or_method" s), args => .error (oneArgument s args.length)
  | value (.thing _ _), _ => .error .beyondTypes
  | t, _ => .error (.noCall t.typeName)

end TypeExpr

end RecordSchema
