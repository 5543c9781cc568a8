import RecordSchema.Named
import RecordSchema.Text.Cut
import RecordSchema.Value

/-! # Classes of errors

The errors that a caller can tell apart form a small tree. An error of a class without a text of
its own shows what it is made with.
-/
namespace RecordSchema

inductive ErrorClass where
  | any
  | config
  | schemaBuild
  | recordType
  | recordLoad
  | missingTag
  | unsupportedType
deriving DecidableEq, Repr

namespace ErrorClass

def all : List ErrorClass :=
  [any, config, schemaBuild, recordType, recordLoad, missingTag, unsupportedType]

def name : ErrorClass → String
  | any => "ConfqlError"
  | config => "ConfigError"
  | schemaBuild => "SchemaBuildError"
  | recordType => "RecordTypeError"
  | recordLoad => "RecordLoadError"
  | missingTag => "MissingTagError"
  | unsupportedType => "UnsupportedTypeError"

def ofName? (s : String) : Option ErrorClass := all.find? fun c => c.name == s

/-- The class and those above it. -/
def lineage : ErrorClass → List ErrorClass
  | any => [any]
  | config => [config, any]
  | schemaBuild => [schemaBuild, any]
  | c => [c, schemaBuild, any]

end ErrorClass

/-- What the initializer of a class takes besides the error itself, and how many of it are needed. -/
structure Initializer where
  parameters : List String
  required : Nat
deriving DecidableEq, Repr

/-- Classes without an initializer of their own take any number of arguments without names. -/
def ErrorClass.initializer? : ErrorClass → Option Initializer
  | .missingTag => some ⟨["field_name", "tag_key"], 2⟩
  | .unsupportedType => some ⟨["field_name", "type_name", "reason"], 2⟩
  | _ => none

/-- Why an error cannot be made from some arguments. -/
inductive ArgumentError where
  | namesRefused (className : String)
  | unexpected (className name : String)
  | repeated (className name : String)
  | tooMany (className : String) (least most given : Nat)
  | missing (className : String) (names : List String)
  /-- The text of the error would hold an argument that cannot be written. -/
  | unwritten (e : WriteError)
deriving DecidableEq, Repr

/-- A count that goes from one number to another. -/
def rangeText (least most : Nat) : String :=
  if least = most then toString most else "from " ++ toString least ++ " to " ++ toString most

def ArgumentError.message : ArgumentError → String
  | .namesRefused c => c ++ "() takes no keyword arguments"
  | .unexpected c name => c ++ ".__init__() got an unexpected keyword argument '" ++ name ++ "'"
  | .repeated c name => c ++ ".__init__() got multiple values for argument '" ++ name ++ "'"
  | .tooMany c least most given =>
    c ++ ".__init__() takes " ++ rangeText least most ++ " positional arguments but " ++
      toString given ++ " were given"
  | .missing c names =>
    c ++ ".__init__() missing " ++ toString names.length ++ " required positional argument" ++
      (if names.length = 1 then "" else "s") ++ ": " ++
      Text.listing (names.map fun n => "'" ++ n ++ "'")
  | .unwritten e => e.message

/-- Give the named arguments to the parameters that are still without one. -/
def bindNamed (className : String) (parameters : List String) (bound : Named Value) :
    List (String × Value) → Except ArgumentError (Named Value)
  | [] => .ok bound
  | (name, v) :: rest =>
    if !parameters.contains name then .error (.unexpected className name)
    else if (bound.lookup name).isSome then .error (.repeated className name)
    else bindNamed className parameters (bound.put name v) rest

/-- The values of the parameters. The error itself counts as the first argument. -/
def Initializer.bind (i : Initializer) (className : String) (args : List Value)
    (named : Named Value) : Except ArgumentError (Named Value) := do
  let bound ← bindNamed className i.parameters (i.parameters.zip args) named
  if i.parameters.length < args.length then
    .error (.tooMany className (i.required + 1) (i.parameters.length + 1) (args.length + 1))
  else
    match (i.parameters.take i.required).filter fun p => (bound.lookup p).isNone with
    | [] => .ok bound
    | missing => .error (.missing className missing)

/-- An error made by hand: its message, if that can be written, and the attributes it carries. -/
structure MadeError where
  message : Except WriteError String
  attributes : Named Value
deriving Repr

/-- What an error without a text of its own shows. -/
def plainMessage : List Value → Except WriteError String
  | [] => .ok ""
  | [v] => v.toText
  | vs => (Value.tuple vs).shown

/-- A reason is given where it counts as true. -/
def reasonText (v : Value) : Except WriteError String :=
  if v.isTrue then return " (" ++ (← v.toText) ++ ")" else .ok ""

/-- The message of a class with an initializer, from the values of the parameters. -/
def ErrorClass.messageOf (c : ErrorClass) (get : String → Value) : Except WriteError String :=
  match c with
  | .missingTag =>
    return "field " ++ (← (get "field_name").toText) ++ " has no required " ++
      (← (get "tag_key").toText) ++ " tag"
  | _ =>
    return "field " ++ (← (get "field_name").toText) ++ " has unsupported type: " ++
      (← (get "type_name").toText) ++ (← reasonText (get "reason"))

/-- The parameters that an error keeps as its attributes. -/
def ErrorClass.keptParameters : ErrorClass → List String
  | .missingTag => ["field_name", "tag_key"]
  | _ => ["field_name", "type_name"]

/-- An error of a class with an initializer, made from the values of the parameters. Its message is
put together at once. -/
def ErrorClass.ofParameters (c : ErrorClass) (bound : Named Value) :
    Except ArgumentError MadeError :=
  let get := fun (name : String) => (bound.lookup name).getD .null
  match c.messageOf get with
  | .ok s => .ok ⟨.ok s, c.keptParameters.map fun name => (name, get name)⟩
  | .error e => .error (.unwritten e)

/-- An error of a class, made from arguments in order and from named ones. -/
def ErrorClass.make (c : ErrorClass) (args : List Value) (named : Named Value) :
    Except ArgumentError MadeError :=
  match c.initializer? with
  | some i => i.bind c.name args named >>= c.ofParameters
  | none => if named.isEmpty then .ok ⟨plainMessage args, []⟩ else .error (.namesRefused c.name)

end RecordSchema
