import RecordSchema.Text.Cut
import RecordSchema.TypeExpr.Basic

/-! # Names of types

A class or an alias is called by its bare name. Every other type is called by its full text, in
which classes and aliases carry their module, and from which the marks of the hinted spellings are
taken out. A type that holds a whole number with too many digits has no such text.
-/
namespace RecordSchema

namespace TypeExpr

def commaList (items : List String) : String := String.intercalate ", " items

/-- Brackets without an argument hold an empty tuple. -/
def bracketed (items : List String) : String :=
  "[" ++ (if items.isEmpty then "()" else commaList items) ++ "]"

/-- The text of a union by its members and their texts: the optional form for two members of which
one is the class of absence. -/
def unionText (members : List TypeExpr) (texts : List String) : String :=
  match members, texts with
  | [a, b], [s, t] =>
    if a.isNoneType then "typing.Optional[" ++ t ++ "]"
    else if b.isNoneType then "typing.Optional[" ++ s ++ "]"
    else "typing.Union[" ++ commaList [s, t] ++ "]"
  | _, texts => "typing.Union[" ++ commaList texts ++ "]"

/-- Between bars, the class of absence is written as absence itself. -/
def barText (member : TypeExpr) (text : String) : String :=
  if member.isNoneType then "None" else text

def pipeText (members : List TypeExpr) (texts : List String) : String :=
  String.intercalate " | " (List.zipWith barText members texts)

mutual

/-- The text of a type inside another one. -/
def inner : TypeExpr → Except WriteError String
  | cls c => .ok c.full
  | noneObject => .ok "None"
  | synonym _ c _ => .ok (c.module ++ "." ++ c.name)
  | generic form args =>
    (form.spelling ++ bracketed ·) <$> (if form.hinted then innerAll args else itemTexts args)
  | rest => .ok "..."
  | union ts => unionText ts <$> innerAll ts
  | pipe ts => pipeText ts <$> innerAll ts
  | noted t notes =>
    return "typing.Annotated[" ++ commaList ((← inner t) :: (← Value.shownItems notes)) ++ "]"
  | literal vs => return "typing.Literal" ++ bracketed (← Value.shownItems vs)
  | parameter _ name => .ok ("~" ++ name)
  | value v => v.shown
  | forward s => .ok (Text.quoted s)
  | reference s => .ok ("ForwardRef(" ++ Text.quoted s ++ ")")
  | classVariable t => return "typing.ClassVar[" ++ (← inner t) ++ "]"
  -- The type of a variable of the initializer goes by its bare name when it is a class.
  | initVariable (cls c) => .ok ("dataclasses.InitVar[" ++ c.name ++ "]")
  | initVariable t => return "dataclasses.InitVar[" ++ (← inner t) ++ "]"

def innerAll : List TypeExpr → Except WriteError (List String)
  | [] => .ok []
  | t :: ts => return (← inner t) :: (← innerAll ts)

/-- The texts of the arguments of a container that is not hinted. Here an alias that says it is built
in goes without a module, and a function goes by its name. -/
def itemTexts : List TypeExpr → Except WriteError (List String)
  | [] => .ok []
  | synonym _ c _ :: ts => return c.full :: (← itemTexts ts)
  | value v :: ts => do
    let s ← match v.functionName? with
      | some name => .ok name
      | none => v.shown
    return s :: (← itemTexts ts)
  | t :: ts => return (← inner t) :: (← itemTexts ts)

end

mutual

/-- The text that a declaration writes a type with where all of its names are known. -/
def spelled : TypeExpr → Except WriteError String
  | cls c => .ok c.name
  | synonym _ c _ => .ok c.name
  | forward s => .ok s
  | generic form args => return form.spelling ++ bracketed (← spelledAll args)
  | pipe ts => String.intercalate " | " <$> spelledAll ts
  | t => inner t

def spelledAll : List TypeExpr → Except WriteError (List String)
  | [] => .ok []
  | t :: ts => return (← spelled t) :: (← spelledAll ts)

end

def unmarked (s : String) : String := Text.replace "typing." "" s

/-- The name of a type in messages. -/
def display : TypeExpr → Except WriteError String
  | cls c => .ok c.name
  | synonym _ c _ => .ok (Value.bareName c.name)
  | value v => unmarked <$> v.toText
  | forward s => .ok (unmarked s)
  | rest => .ok "Ellipsis"
  | t => unmarked <$> t.inner

end TypeExpr

end RecordSchema
