import RecordSchema.TypeExpr.Basic

/-! # Kinds of fields

A field's kind follows from its declared type alone: one optional layer is taken off, then every
alias, and what is left must be one of four classes or a sequence of text.
-/
namespace RecordSchema

inductive Kind where
  | int
  | string
  | boolean
  | duration
  | stringList
deriving DecidableEq, Repr

namespace Kind

def all : List Kind := [int, string, boolean, duration, stringList]

def name : Kind → String
  | int => "int"
  | string => "string"
  | boolean => "boolean"
  | duration => "duration"
  | stringList => "string_list"

def ofName? (s : String) : Option Kind := all.find? fun k => k.name == s

/-- The value of a field of this kind that nothing has been put into. -/
def zero : Kind → Value
  | int => .int 0
  | string => .text ""
  | boolean => .bool false
  | duration => .duration 0
  | stringList => .tuple []

end Kind

namespace TypeExpr

/-- The one member of a union beside the class of absence; any other type as it is. -/
def unwrapOptional (t : TypeExpr) : TypeExpr :=
  match t with
  | union ts | pipe ts =>
    match ts.filter fun m => !m.isNoneType with
    | [m] => m
    | _ => t
  | _ => t

/-- Whether an optional layer is there to be taken off. -/
def isOptional (t : TypeExpr) : Bool :=
  match t with
  | union ts | pipe ts => (ts.filter fun m => !m.isNoneType).length == 1
  | _ => false

/-- The type behind all aliases. -/
def unwrapAlias : TypeExpr → TypeExpr
  | synonym _ _ target => unwrapAlias target
  | t => t

def isText (t : TypeExpr) : Bool := t.unwrapAlias.isClass ⟨"builtins", "str"⟩

/-- Lists and sequences of text, and tuples of any number of texts. -/
def isTextSequence : TypeExpr → Bool
  | generic form args =>
    match form.family, args with
    | .list, [t] | .sequence, [t] => t.isText
    | .tuple, [t, rest] => t.isText
    | _, _ => false
  | _ => false

def kind? (t : TypeExpr) : Option Kind :=
  match t.unwrapOptional.unwrapAlias with
  | cls ⟨"builtins", "bool"⟩ => some .boolean
  | cls ⟨"builtins", "int"⟩ => some .int
  | cls ⟨"builtins", "str"⟩ => some .string
  | cls ⟨"datetime", "timedelta"⟩ => some .duration
  | r => if r.isTextSequence then some .stringList else none

end TypeExpr

end RecordSchema
