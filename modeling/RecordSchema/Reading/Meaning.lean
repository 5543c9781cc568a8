import RecordSchema.Reading.Evaluation

/-! # What declared types mean

A text in the place of a type is an expression, and what it evaluates to may hold texts in its turn.
A text that is met again while it is being read stays a reference. Once all texts are read, notes are
dropped and unions are brought into normal form again.
-/
namespace RecordSchema.TypeExpr

open Expression (Fault)

def formed {α : Type} (x : Except TypeFault α) : Except Fault α := x.mapError .form

mutual

/-- Replaces all references by what they mean. -/
def resolve (read : String → Except Fault TypeExpr) : TypeExpr → Except Fault TypeExpr
  | forward s => do
    let _ ← formed (referenceTo s)
    read s
  | reference s => read s
  | generic form args => generic form <$> resolveAll read args
  | union ts => do
    let us ← resolveAll read ts
    if sameArgs us ts then .ok (union ts) else formed (unionOf us)
  | pipe ts => do
    let us ← resolveAll read ts
    if sameArgs us ts then .ok (pipe ts) else formed (pipeOf us)
  | noted t _ => do formed (notable (← resolve read t))
  | classVariable t => classVariable <$> resolve read t
  | t => .ok t

def resolveAll (read : String → Except Fault TypeExpr) :
    List TypeExpr → Except Fault (List TypeExpr)
  | [] => .ok []
  | t :: ts => do
    let t ← resolve read t
    let ts ← resolveAll read ts
    .ok (t :: ts)

end

/-- The type that a text means, given the texts that are being read around it. The number bounds how
deep texts may lead to one another. -/
def readWithin (s : Standpoint) : Nat → List String → String → Except Fault TypeExpr
  | 0, _, _ => .error .tooDeep
  | n + 1, around, text =>
    if around.contains text then .ok (reference text)
    else match Expression.parse? text with
      | none => .error (.form (.unread text))
      | some e => do
        let t ← Expression.evaluate s e
        let t ← formed (asArgument .reference t)
        resolve (readWithin s n (text :: around)) t

/-- How deep texts may lead to one another. -/
def depthLimit : Nat := 200

/-- The type that a declaration means: absence stands for its class. -/
def meaning (s : Standpoint) : TypeExpr → Except Fault TypeExpr
  | noneObject => .ok noneType
  | t => resolve (readWithin s depthLimit []) t

end RecordSchema.TypeExpr
