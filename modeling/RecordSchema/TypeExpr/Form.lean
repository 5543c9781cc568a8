import RecordSchema.Expression.Parser
import RecordSchema.TypeExpr.Basic
import RecordSchema.Value.Bits

/-! # Forming types

Types are formed from other types, and not every part fits every form: a tuple of values is no type,
a text must be an expression, some containers count their arguments, and the members of a union are
compared with one another, which they cannot be when a part of them can change. Unions are brought
into a normal form, without nesting and without repetitions.
-/
namespace RecordSchema

/-- Where a type is asked for. -/
inductive TypePosition where
  | unionMember
  | optional
  | argument
  | tupleItem
  | repeatedItem
  | noted
  | classVariable
  | reference
deriving DecidableEq, Repr

inductive TypeFault where
  | noMembers
  | notAType (position : TypePosition) (got : String)
  | wrongCount (spelling : String) (given expected : Nat)
  /-- A part that can change is compared with other types. -/
  | changeable (className : String)
  | noBar (left right : String)
  | noOperands
  | malformed (text : String)
  /-- A text that may be an expression of a form that is left out here. -/
  | leftOut (text : String)
  /-- A complaint cannot show the part that it is about. -/
  | unwritten (e : WriteError)
  /-- Notes can be put only on what comes from a module. -/
  | noModule (className : String)
deriving DecidableEq, Repr

def TypePosition.rule : TypePosition → String
  | unionMember => "Union[arg, ...]: each arg must be a type."
  | optional => "typing.Optional requires a single type."
  | argument => "Parameters to generic types must be types."
  | tupleItem => "Tuple[t0, t1, ...]: each t must be a type."
  | repeatedItem => "Tuple[t, ...]: t must be a type."
  | noted => "Annotated[t, ...]: t must be a type."
  | classVariable => "typing.ClassVar accepts only single type."
  | reference => "Forward references must evaluate to types."

/-- How much of a value a complaint about it shows. -/
def shownLimit : Nat := 100

def TypeFault.message : TypeFault → String
  | .noMembers => "Cannot take a Union of no types."
  | .notAType position got =>
    position.rule ++ " Got " ++ String.ofList (got.toList.take shownLimit) ++ "."
  | .wrongCount spelling given expected =>
    "Too " ++ (if expected < given then "many" else "few") ++ " arguments for " ++ spelling ++
      "; actual " ++ toString given ++ ", expected " ++ toString expected
  | .changeable c => "unhashable type: '" ++ c ++ "'"
  | .noBar left right =>
    "unsupported operand type(s) for |: '" ++ left ++ "' and '" ++ right ++ "'"
  | .noOperands => "reduce() of empty iterable with no initial value"
  | .malformed s | .leftOut s => "Forward reference must be an expression -- got " ++ Text.quoted s
  | .unwritten e => e.message
  | .noModule c => "'" ++ c ++ "' object has no attribute '__module__'"

/-- What is wrong with a text that cannot be read. -/
def TypeFault.unread (s : String) : TypeFault :=
  if Expression.leavesOut s then .leftOut s else .malformed s

/-- What is wrong with a tuple in the place of a type. -/
def TypeFault.ofTuple (position : TypePosition) (items : List Value) : TypeFault :=
  match (Value.tuple items).shown with
  | .ok s => .notAType position s
  | .error e => .unwritten e

namespace TypeExpr

/-- A text becomes a reference if it can be read. -/
def referenceTo (s : String) : Except TypeFault TypeExpr :=
  if Expression.isWellFormed s then .ok (reference s) else .error (.unread s)

/-- What a part of a hinted form becomes. -/
def asArgument (position : TypePosition) : TypeExpr → Except TypeFault TypeExpr
  | noneObject => .ok noneType
  | forward s => referenceTo s
  | value (.tuple items) => .error (.ofTuple position items)
  | t => .ok t

def asArguments (position : TypePosition) : List TypeExpr → Except TypeFault (List TypeExpr)
  | [] => .ok []
  | t :: ts => do
    let t ← asArgument position t
    let ts ← asArguments position ts
    .ok (t :: ts)

/-- The union of types that are arguments already. -/
def unite (ts : List TypeExpr) : Except TypeFault TypeExpr :=
  let ts := ts.flatMap members
  match firstChangeable? ts with
  | some c => .error (.changeable c)
  | none => .ok (collapse union (distinct ts))

def unionOf (ts : List TypeExpr) : Except TypeFault TypeExpr :=
  if ts.isEmpty then .error .noMembers else asArguments .unionMember ts >>= unite

def optionalOf (t : TypeExpr) : Except TypeFault TypeExpr := do
  unite [← asArgument .optional t, noneType]

def orNoneType : TypeExpr → TypeExpr
  | noneObject => noneType
  | t => t

/-- Two values that are no types, at a bar. -/
def barValues? : TypeExpr → TypeExpr → Option TypeExpr
  | value a, value b => (a.united? b).map value
  | _, _ => none

/-- The union that a bar makes of two types. -/
def bar (a b : TypeExpr) : Except TypeFault TypeExpr :=
  if a.isHinted || b.isHinted then unionOf [a, b]
  else if a.isBarred && b.isBarred && !(a.same noneObject && b.same noneObject) then
    .ok (collapse pipe (distinct (([a, b].map orNoneType).flatMap members)))
  else match barValues? a b with
    | some t => .ok t
    | none => .error (.noBar a.typeName b.typeName)

def pipeOf : List TypeExpr → Except TypeFault TypeExpr
  | [] => .error .noOperands
  | t :: ts => ts.foldlM bar t

/-- Whether the last of at least two arguments is the dots of repetition. -/
def endsInRest (args : List TypeExpr) : Bool :=
  match args.reverse with
  | rest :: _ :: _ => true
  | _ => false

def genericOf (form : Container) (args : List TypeExpr) : Except TypeFault TypeExpr :=
  if !form.hinted then .ok (generic form args)
  else match form.family with
    | .tuple =>
      if endsInRest args then do
        let items ← asArguments .repeatedItem args.dropLast
        .ok (generic form (items ++ [rest]))
      else generic form <$> asArguments .tupleItem args
    | _ => do
      let args ← asArguments .argument args
      match form.count with
      | none => .ok (generic form args)
      | some n =>
        if args.length = n then .ok (generic form args)
        else .error (.wrongCount form.spelling args.length n)

/-- Whether a value tells which module it is from. -/
def comesFromModule : Value → Bool
  | .index .. | .object _ | .field _ => true
  | .thing c _ => ["builtin_function_or_method", "function", "method", "Quitter", "_Helper"].contains c
  | _ => false

/-- A type that notes can be put on. -/
def notable : TypeExpr → Except TypeFault TypeExpr
  | value v => if comesFromModule v then .ok (value v) else .error (.noModule v.typeName)
  | rest => .error (.noModule "ellipsis")
  | t => .ok t

/-- Notes on a type that has notes already are added to them. -/
def notedOf (t : TypeExpr) (notes : List Value) : Except TypeFault TypeExpr := do
  match ← asArgument .noted t >>= notable with
  | noted inner earlier => .ok (noted inner (earlier ++ notes))
  | inner => .ok (noted inner notes)

/-- Repeated values are dropped, unless one of them can change: then all are kept. -/
def literalOf (values : List Value) : TypeExpr :=
  if (Value.firstChangeable? values).isSome then literal values
  else literal (values.foldl
    (fun kept v => if kept.any (Value.same v) then kept else kept ++ [v]) [])

def classVariableOf (t : TypeExpr) : Except TypeFault TypeExpr :=
  classVariable <$> asArgument .classVariable t

end TypeExpr

end RecordSchema
