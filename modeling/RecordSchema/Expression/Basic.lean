import RecordSchema.Value

/-! # Expressions

What a text that stands for a type may say: names and their attributes, subscripts, operators,
displays of several items, and calls.
-/
namespace RecordSchema

inductive BinaryOp where
  | or
  | xor
  | and
  | shiftLeft
  | shiftRight
  | add
  | sub
  | mul
  | div
  | floorDiv
  | mod
  | matMul
  | pow
deriving DecidableEq, Repr

def BinaryOp.symbol : BinaryOp → String
  | or => "|"
  | xor => "^"
  | and => "&"
  | shiftLeft => "<<"
  | shiftRight => ">>"
  | add => "+"
  | sub => "-"
  | mul => "*"
  | div => "/"
  | floorDiv => "//"
  | mod => "%"
  | matMul => "@"
  | pow => "**"

inductive UnaryOp where
  | plus
  | minus
  | invert
deriving DecidableEq, Repr

def UnaryOp.symbol : UnaryOp → String
  | plus => "+"
  | minus => "-"
  | invert => "~"

inductive Comparison where
  | eq
  | ne
  | lt
  | le
  | gt
  | ge
  | is
  | isNot
  | within
  | notWithin
deriving DecidableEq, Repr

inductive Expression where
  | name (s : String)
  | constant (v : Value)
  | dots
  | member (owner : Expression) (name : String)
  | subscript (owner index : Expression)
  /-- The three parts of a range of positions; an absent one is the constant of absence. -/
  | range (first last step : Expression)
  | call (callee : Expression) (args : List Expression) (named : List (String × Expression))
  | tuple (items : List Expression)
  | list (items : List Expression)
  | set (items : List Expression)
  | table (keys values : List Expression)
  /-- An item that stands for all of its own items. -/
  | spread (inner : Expression)
  /-- An item that is given a name besides. -/
  | bound (name : String) (inner : Expression)
  | unary (op : UnaryOp) (e : Expression)
  | binary (op : BinaryOp) (a b : Expression)
  /-- A chain of comparisons, each between two neighbours. -/
  | comparison (first : Expression) (ops : List Comparison) (others : List Expression)
  | both (a b : Expression)
  | either (a b : Expression)
  | negation (e : Expression)
  | choice (yes condition no : Expression)
  /-- A function without a name. -/
  | function (defaults : List Expression) (body : Expression)
deriving Inhabited, Repr

end RecordSchema
