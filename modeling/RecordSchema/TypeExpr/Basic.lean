import RecordSchema.Value

/-! # Type expressions

The types that record fields are declared with: classes, named aliases, containers with arguments,
unions in two notations, and a few forms that never describe a field. What is no type at all can
stand in the place of one and is kept as a value.
-/
namespace RecordSchema

/-- What a container is when its spelling is left aside. -/
inductive Family where
  | list
  | tuple
  | sequence
  | other
deriving DecidableEq, Repr

/-- A container that takes arguments. The hinted spellings turn absence into its class and text
into references, and most of them count their arguments. -/
structure Container where
  spelling : String
  family : Family
  hinted : Bool := false
  count : Option Nat := none
deriving DecidableEq, Repr

inductive TypeExpr where
  | cls (name : ClassName)
  /-- Absence itself, in the place of a type. -/
  | noneObject
  /-- A named alias. Two aliases are the same type only if they come from one declaration, which
  the serial number identifies. -/
  | synonym (serial : Nat) (name : ClassName) (target : TypeExpr)
  | generic (form : Container) (args : List TypeExpr)
  /-- The dots that stand for any number of further items. -/
  | rest
  | union (members : List TypeExpr)
  | pipe (members : List TypeExpr)
  | noted (inner : TypeExpr) (notes : List Value)
  | literal (values : List Value)
  | parameter (serial : Nat) (name : String)
  /-- A value that is no type. -/
  | value (v : Value)
  /-- A text that is to be read as a type. -/
  | forward (text : String)
  /-- A text in the place of an argument, still to be read as a type. -/
  | reference (text : String)
  | classVariable (inner : TypeExpr)
  | initVariable (inner : TypeExpr)
deriving Inhabited, Repr

namespace TypeExpr

def builtin (name : String) : TypeExpr := cls ⟨"builtins", name⟩

def noneType : TypeExpr := builtin "NoneType"
def intType : TypeExpr := builtin "int"
def boolType : TypeExpr := builtin "bool"
def textType : TypeExpr := builtin "str"
def durationType : TypeExpr := cls ⟨"datetime", "timedelta"⟩

def isClass (c : ClassName) : TypeExpr → Bool
  | cls d => c == d
  | _ => false

def isNoneType : TypeExpr → Bool := isClass ⟨"builtins", "NoneType"⟩

mutual

/-- Whether two expressions are the same type. The order of the members of a union and its notation
do not matter. -/
def same : TypeExpr → TypeExpr → Bool
  | cls a, b => b.isClass a
  | noneObject, noneObject => true
  | synonym s a _, synonym t b _ => s == t && a == b
  | generic f as, generic g bs => f == g && sameArgs as bs
  | rest, rest => true
  | union as, union bs => covered as bs && bs.all fun b => occurs as b
  | union as, pipe bs => covered as bs && bs.all fun b => occurs as b
  | pipe as, union bs => covered as bs && bs.all fun b => occurs as b
  | pipe as, pipe bs => covered as bs && bs.all fun b => occurs as b
  | noted a ns, noted b ms => same a b && Value.equalItems ns ms
  | literal as, literal bs =>
    as.all (fun a => bs.any (Value.same a)) && bs.all (fun b => as.any (Value.same b))
  | parameter s a, parameter t b => s == t && a == b
  | value a, value b => Value.equal a b
  | forward a, forward b => a == b
  | reference a, reference b => a == b
  | classVariable a, classVariable b => same a b
  | _, _ => false

def sameArgs : List TypeExpr → List TypeExpr → Bool
  | [], [] => true
  | a :: as, b :: bs => same a b && sameArgs as bs
  | _, _ => false

/-- Every type of the first list is in the second. -/
def covered : List TypeExpr → List TypeExpr → Bool
  | [], _ => true
  | a :: as, bs => bs.any (fun b => same a b) && covered as bs

def occurs : List TypeExpr → TypeExpr → Bool
  | [], _ => false
  | a :: as, b => same a b || occurs as b

end

mutual

/-- The class of the first part of a type that can change, and so cannot be kept in a set. -/
def changeable? : TypeExpr → Option String
  | generic _ args => firstChangeable? args
  | union ts => firstChangeable? ts
  | pipe ts => firstChangeable? ts
  | noted t notes => (changeable? t).or (Value.firstChangeable? notes)
  | literal vs => Value.firstChangeable? vs
  | value v => v.changeable?
  | classVariable t => changeable? t
  | _ => none

def firstChangeable? : List TypeExpr → Option String
  | [] => none
  | t :: ts => (changeable? t).or (firstChangeable? ts)

end

/-- The members of a union, in either notation; any other type is its own member. -/
def members : TypeExpr → List TypeExpr
  | union ts => ts
  | pipe ts => ts
  | t => [t]

/-- Each type at the place of its first occurrence. -/
def distinct (ts : List TypeExpr) : List TypeExpr :=
  ts.foldl (fun kept t => if occurs kept t then kept else kept ++ [t]) []

/-- A union of one member is that member. -/
def collapse (wrap : List TypeExpr → TypeExpr) : List TypeExpr → TypeExpr
  | [t] => t
  | ts => wrap ts

/-- The forms that turn a union written with bars into one of the other notation. -/
def isHinted : TypeExpr → Bool
  | synonym .. => true
  | generic f _ => f.hinted
  | union _ => true
  | noted .. => true
  | literal _ => true
  | parameter .. => true
  | reference _ => true
  | classVariable _ => true
  | _ => false

/-- What may stand at a bar where no hinted form does. -/
def isBarred : TypeExpr → Bool
  | cls _ => true
  | noneObject => true
  | generic f _ => !f.hinted
  | pipe _ => true
  | _ => false

/-- The full name of the class of what stands in the place of a type. -/
def typeName : TypeExpr → String
  | cls c => Value.metaName c
  | noneObject => "NoneType"
  | synonym .. => "NewType"
  | generic f _ => if f.hinted then "_GenericAlias" else "types.GenericAlias"
  | rest => "ellipsis"
  | union _ => "_UnionGenericAlias"
  | pipe _ => "types.UnionType"
  | noted .. => "_AnnotatedAlias"
  | literal _ => "_LiteralGenericAlias"
  | parameter .. => "TypeVar"
  | value v => v.typeName
  | forward _ => "str"
  | reference _ => "ForwardRef"
  | classVariable _ => "_GenericAlias"
  | initVariable _ => "InitVar"

/-- A value in the place of a type: absence, text and classes have meanings of their own there. -/
def ofValue : Value → TypeExpr
  | .null => noneObject
  | .text s => forward s
  | .cls c => cls c
  | .thing "ellipsis" _ => rest
  | v => value v

end TypeExpr

end RecordSchema
