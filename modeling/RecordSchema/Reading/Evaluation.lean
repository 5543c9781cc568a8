import RecordSchema.Reading.Call
import RecordSchema.Reading.Subscript

/-! # What expressions mean

An expression means a type, or a value that stands in the place of one. A name is looked up among
the names of the module, then among those that the class itself holds, then everywhere. Operands are
evaluated from left to right, and the first that means nothing ends the evaluation.
-/
namespace RecordSchema

/-- Where an expression is read: in a module, and in the class at the head of a lineage. -/
structure Standpoint where
  scope : Scope
  lineage : List Layer := []
deriving Repr

namespace Standpoint

/-- What every module holds beside its own names. -/
def moduleFacts (module : String) : Named Value :=
  [("__name__", .text module), ("__doc__", .null), ("__package__", .null), ("__loader__", .null),
    ("__spec__", .null)]

/-- What the class itself holds under a name. -/
def ownValue? (s : Standpoint) (name : String) : Option Value :=
  s.lineage.head?.bind fun l => (l.members s.lineage).lookup name

def lookUp (s : Standpoint) (name : String) : Except Expression.Fault TypeExpr :=
  match s.scope.names.lookup name with
  | some t => .ok t
  | none =>
    match ((moduleFacts s.scope.module).lookup name).or
        ((s.ownValue? name).or (Builtin.named? name)) with
    | some v => .ok (TypeExpr.ofValue v)
    | none => .error (.unknownName name)

end Standpoint

namespace Expression

def spreadItems (t : TypeExpr) : Except Fault (List TypeExpr) :=
  match t.items? with
  | some vs => .ok (vs.map TypeExpr.ofValue)
  | none => .error (.notSpread t.typeName)

/-- A bound of a range of positions. -/
def rangeBound (t : TypeExpr) : Except Fault (Option Int) :=
  match t with
  | .noneObject => .ok none
  | t =>
    match t.position? with
    | some i => .ok (some i)
    | none => .error .beyondTypes

def keyText? : TypeExpr → Option String
  | .forward s => some s
  | _ => none

/-- A table whose keys are texts; one with other keys is known by its text only. -/
def tableOf (keys values : List TypeExpr) : Value :=
  match keys.mapM keyText? with
  | some ks => .table (Named.ofList (ks.zip (values.map TypeExpr.toValue)))
  | none => .ofText "dict" do
    let keys ← Value.shownItems (keys.map TypeExpr.toValue)
    let values ← Value.shownItems (values.map TypeExpr.toValue)
    return Value.tableText (List.zipWith (fun k v => k ++ ": " ++ v) keys values)

def setOf (items : List TypeExpr) : Except Fault TypeExpr :=
  match TypeExpr.firstChangeable? items with
  | some c => .error (.form (.changeable c))
  | none =>
    .ok (.value (.ofText "set"
      (Value.tableText <$> Value.shownItems ((TypeExpr.distinct items).map TypeExpr.toValue))))

def applyBinary (op : BinaryOp) (a b : TypeExpr) : Except Fault TypeExpr :=
  match op with
  | .or => (TypeExpr.bar a b).mapError .form
  | op => TypeExpr.ofValue <$> combine op a.toValue b.toValue

/-- The links of a chain of comparisons, up to the first that does not hold. -/
def chain (a : TypeExpr) : List Comparison → List TypeExpr → Except Fault Bool
  | c :: cs, b :: bs => do
    if ← related c a.toValue b.toValue then chain b cs bs else .ok false
  | _, _ => .ok true

mutual

def evaluate (s : Standpoint) : Expression → Except Fault TypeExpr
  | name n => s.lookUp n
  | constant v => .ok (.ofValue v)
  | dots => .ok .rest
  | member e n => do TypeExpr.member s.scope (← evaluate s e) n
  | subscript e (tuple items) => do
    let owner ← evaluate s e
    let args ← evaluateAll s items
    TypeExpr.subscript owner args (.value (.tuple (args.map TypeExpr.toValue)))
  | subscript e (range first last step) => do
    let owner ← evaluate s e
    let first ← rangeBound (← evaluate s first)
    let last ← rangeBound (← evaluate s last)
    let step ← rangeBound (← evaluate s step)
    TypeExpr.select owner ⟨first, last, step⟩
  | subscript e index => do
    let owner ← evaluate s e
    let index ← evaluate s index
    match index with
    | .value (.tuple items) => TypeExpr.subscript owner (items.map TypeExpr.ofValue) index
    | index => TypeExpr.subscript owner [index] index
  | range .. => .error .beyondTypes
  | call e args named => do
    let callee ← evaluate s e
    let args ← evaluateAll s args
    if named.isEmpty then TypeExpr.call s.scope callee args else .error .beyondTypes
  | tuple items => do
    let items ← evaluateAll s items
    .ok (.value (.tuple (items.map TypeExpr.toValue)))
  | list items => do
    let items ← evaluateAll s items
    .ok (.value (.list (items.map TypeExpr.toValue)))
  | set items => do setOf (← evaluateAll s items)
  | table keys values => do
    let keys ← evaluateAll s keys
    let values ← evaluateAll s values
    match TypeExpr.firstChangeable? keys with
    | some c => .error (.form (.changeable c))
    | none => .ok (.value (tableOf keys values))
  | spread _ => .error .beyondTypes
  | bound _ e => evaluate s e
  | unary op e => do
    let t ← evaluate s e
    TypeExpr.ofValue <$> applyUnary op t.toValue
  | binary op a b => do
    let a ← evaluate s a
    let b ← evaluate s b
    applyBinary op a b
  | comparison first ops others => do
    let a ← evaluate s first
    let others ← evaluateAll s others
    (fun b => TypeExpr.value (.bool b)) <$> chain a ops others
  | both a b => do
    let a ← evaluate s a
    if a.isTrue then evaluate s b else .ok a
  | either a b => do
    let a ← evaluate s a
    if a.isTrue then .ok a else evaluate s b
  | negation e => do
    let t ← evaluate s e
    .ok (.value (.bool !t.isTrue))
  | choice yes condition no => do
    if (← evaluate s condition).isTrue then evaluate s yes else evaluate s no
  | function .. => .ok (.value (functionObject "<lambda>"))

/-- Several expressions, where one may stand for many. -/
def evaluateAll (s : Standpoint) : List Expression → Except Fault (List TypeExpr)
  | [] => .ok []
  | spread e :: es => do
    let items ← spreadItems (← evaluate s e)
    let ts ← evaluateAll s es
    .ok (items ++ ts)
  | e :: es => do
    let t ← evaluate s e
    let ts ← evaluateAll s es
    .ok (t :: ts)

end

end Expression

end RecordSchema
