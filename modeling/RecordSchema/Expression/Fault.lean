import RecordSchema.TypeExpr.Form

/-! # Why an expression means nothing

The causes that end the evaluation of an expression, each with its text and its kind.

One kind says nothing about the expression itself. Types are written with names, subscripts, bars
and little else, and an expression that does more than is evaluated here is `beyond`: whether it
means something, and how it fails if not, is left open. Beyond are the texts that the grammar leaves
out, calls with named arguments, calls of more than a few classes and functions, texts filled in by
`%`, repetitions and powers without a small result, attributes and operators of objects that are
known by their texts only, and slices by steps of zero.
-/
namespace RecordSchema.Expression

inductive FaultKind where
  | name
  | member
  | type
  | wording
  | key
  | position
  | division
  | value
  | depth
  | beyond
deriving DecidableEq, Repr

inductive Fault where
  | unknownName (name : String)
  | noAttribute (owner part : String)
  | form (f : TypeFault)
  | operands (symbol left right : String)
  | operand (symbol className : String)
  | order (symbol left right : String)
  | concatenation (sequence other : String)
  | byteConcatenation (other : String)
  | repetition (other : String)
  | notIterable (className : String)
  | notSpread (className : String)
  | notWithinText (className : String)
  | noSubscript (owner : String)
  | noArguments (shown : String)
  | noCall (className : String)
  /-- What is called does not take the arguments, for a reason of its own. -/
  | refused (why : String)
  | noLength (className : String)
  | noPosition (sequence className : String)
  | noTextPosition (className : String)
  | outOfRange (sequence : String)
  | missingKey (shown : String)
  | division (what : String)
  | negativeShift
  | tooDeep
  /-- A text that would be needed has a number in it that is too long. -/
  | unwritten (e : WriteError)
  /-- The expression does something that types are not written with. -/
  | beyondTypes
deriving Repr

namespace Fault

def kind : Fault → FaultKind
  | unknownName _ => .name
  | noAttribute .. => .member
  | form (.malformed _) => .wording
  | form (.leftOut _) => .beyond
  | form (.unwritten _) => .value
  | form (.noModule _) => .member
  | outOfRange _ => .position
  | missingKey _ => .key
  | division _ => .division
  | negativeShift => .value
  | tooDeep => .depth
  | unwritten _ => .value
  | beyondTypes => .beyond
  | _ => .type

/-- A complaint that shows a text, if the text can be written. -/
def showing (complaint : String → Fault) : Except WriteError String → Fault
  | .ok s => complaint s
  | .error e => unwritten e

/-- The class of a value between quotes. -/
def quotedClass (className : String) : String := "'" ++ className ++ "'"

def message : Fault → String
  | unknownName n => "name " ++ quotedClass n ++ " is not defined"
  | noAttribute owner part => owner ++ " has no attribute " ++ quotedClass part
  | form f => f.message
  | operands s l r =>
    "unsupported operand type(s) for " ++ s ++ ": " ++ quotedClass l ++ " and " ++ quotedClass r
  | operand s c => "bad operand type for unary " ++ s ++ ": " ++ quotedClass c
  | order s l r =>
    quotedClass s ++ " not supported between instances of " ++ quotedClass l ++ " and " ++
      quotedClass r
  | concatenation s o => "can only concatenate " ++ s ++ " (not \"" ++ o ++ "\") to " ++ s
  | byteConcatenation o => "can't concat " ++ o ++ " to bytes"
  | repetition o => "can't multiply sequence by non-int of type " ++ quotedClass o
  | notIterable c => "argument of type " ++ quotedClass c ++ " is not iterable"
  | notSpread c => "Value after * must be an iterable, not " ++ c
  | notWithinText c => "'in <string>' requires string as left operand, not " ++ c
  | noSubscript owner => owner ++ " is not subscriptable"
  | noArguments s => s ++ " is not a generic class"
  | noCall c => quotedClass c ++ " object is not callable"
  | refused why => why
  | noLength c => "object of type " ++ quotedClass c ++ " has no len()"
  | noPosition s c => s ++ " indices must be integers or slices, not " ++ c
  | noTextPosition c => "string indices must be integers, not " ++ quotedClass c
  | outOfRange s => if s = "" then "index out of range" else s ++ " index out of range"
  | missingKey s => s
  | division what => what
  | negativeShift => "negative shift count"
  | tooDeep => "maximum recursion depth exceeded"
  | unwritten e => e.message
  | beyondTypes => "unsupported expression"

end Fault

end RecordSchema.Expression
