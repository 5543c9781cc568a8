import RecordSchema.Expression.Fault
import RecordSchema.Record.Attribute

/-! # Subscripts

Brackets behind a container class give it arguments. Brackets behind a text, a list, a tuple or a
table take out an item, or several items by a range of positions.
-/
namespace RecordSchema

/-- A range of positions; each part may be absent. -/
structure PositionRange where
  first : Option Int
  last : Option Int
  step : Option Int
deriving DecidableEq, Repr

namespace PositionRange

/-- A position counted from the front of so many items, or from their end if it is negative. -/
def fromFront (size : Nat) (i : Int) : Int := if i < 0 then i + size else i

def clamp (least greatest i : Int) : Int := max least (min greatest i)

/-- The positions in a range, for so many items. -/
def positions (r : PositionRange) (size : Nat) : List Nat :=
  let step := r.step.getD 1
  let place := fun (least greatest : Int) (i : Int) => clamp least greatest (fromFront size i)
  if 0 < step then
    let first := (r.first.map (place 0 size)).getD 0
    let last := (r.last.map (place 0 size)).getD size
    (List.range size).filter fun (i : Nat) =>
      decide (first ≤ i) && decide ((i : Int) < last) && ((i : Int) - first) % step == 0
  else
    let first := (r.first.map (place (-1) (size - 1))).getD (size - 1)
    let last := (r.last.map (place (-1) (size - 1))).getD (-1)
    ((List.range size).filter fun (i : Nat) =>
      decide ((i : Int) ≤ first) && decide (last < i) && (first - (i : Int)) % step == 0).reverse

def select {α : Type} (r : PositionRange) (items : List α) : List α :=
  (r.positions items.length).filterMap fun i => items[i]?

def partText : Option Int → Except WriteError String
  | some i => Text.whole i
  | none => .ok "None"

def shown (r : PositionRange) : Except WriteError String :=
  Value.call "slice" <$> [r.first, r.last, r.step].mapM partText

end PositionRange

namespace TypeExpr

open Expression (Fault)

/-- The container that a class is when it takes arguments. -/
def containerOf? (c : ClassName) : Option Container :=
  if c = ⟨"collections.abc", "Sequence"⟩ then containers.lookup "Sequence"
  else if c.module = "builtins" then (containers.lookup c.name).filter fun f => f.spelling == c.name
  else none

/-- Brackets behind a class: the arguments of a container. -/
def withArguments (c : ClassName) (args : List TypeExpr) : Except Fault TypeExpr :=
  match containerOf? c with
  | some f => .ok (generic f args)
  | none => .error (.noSubscript ("type '" ++ Builtin.fullName c ++ "'"))

/-- The item at a position. -/
def itemAt {α : Type} (what : String) (items : List α) (i : Int) : Except Fault α :=
  let place := PositionRange.fromFront items.length i
  if place < 0 then .error (.outOfRange what)
  else match items[place.toNat]? with
    | some a => .ok a
    | none => .error (.outOfRange what)

/-- The whole number that says a position. -/
def position? : TypeExpr → Option Int
  | value (.int i) => some i
  | value (.bool b) => some (if b then 1 else 0)
  | value (.index _ i) => some i
  | _ => none

def characterText (c : Char) : Value := .text (String.ofList [c])

/-- How the error about a missing key shows the key. -/
def keyText (key : Value) : String :=
  match key.shown with
  | .ok s => s
  | .error _ => "<exception str() failed>"

def itemOf (v : Value) (index : TypeExpr) : Except Fault TypeExpr :=
  match v, index.position? with
  | .text s, some i => (ofValue ∘ characterText) <$> itemAt "string" s.toList i
  | .text _, none => .error (.noTextPosition index.typeName)
  | .bytes bs, some i => (fun b => value (.int b.toNat)) <$> itemAt "" bs i
  | .bytes _, none => .error (.noPosition "byte" index.typeName)
  | .list vs, some i => ofValue <$> itemAt "list" vs i
  | .list _, none => .error (.noPosition "list" index.typeName)
  | .tuple vs, some i => ofValue <$> itemAt "tuple" vs i
  | .tuple _, none => .error (.noPosition "tuple" index.typeName)
  | .table entries, _ | .mapping entries, _ =>
    match index.changeable? with
    | some c => .error (.form (.changeable c))
    | none =>
      match index with
      | forward key =>
        match entries.lookup key with
        | some v => .ok (ofValue v)
        | none => .error (.missingKey (Text.quoted key))
      | index => .error (.missingKey (keyText index.toValue))
  | v, _ => .error (.noSubscript (Builtin.ownerText v))

/-- What brackets with the given arguments make of a type; `index` is the one thing that they hold. -/
def subscript (owner : TypeExpr) (args : List TypeExpr) (index : TypeExpr) :
    Except Fault TypeExpr :=
  match owner with
  | cls c => withArguments c args
  | noneObject => itemOf .null index
  | forward s => itemOf (.text s) index
  | value v => itemOf v index
  | generic .. | union _ | pipe _ | noted .. | literal _ =>
    .error (.showing .noArguments owner.inner)
  | t => .error (.noSubscript (Builtin.ownerText t.toValue))

/-- What a range of positions makes of a type. -/
def select (owner : TypeExpr) (r : PositionRange) : Except Fault TypeExpr :=
  if r.step = some 0 then .error .beyondTypes
  else match owner with
    | forward s => .ok (forward (String.ofList (r.select s.toList)))
    | value (.bytes bs) => .ok (value (.bytes (r.select bs)))
    | value (.list vs) => .ok (value (.list (r.select vs)))
    | value (.tuple vs) => .ok (value (.tuple (r.select vs)))
    | owner =>
      let index := value (.ofText "slice" r.shown)
      subscript owner [index] index

end TypeExpr

end RecordSchema
