import RecordSchema.Expression.Fault

/-! # Arithmetic on values

Whole numbers are computed with exactly; a fraction makes the result the nearest number of double
precision to the exact one. Texts and lists are joined and repeated.
-/
namespace RecordSchema.Expression

/-- The whole number that a number or a truth value is. -/
def whole? : Value → Option Int
  | .int i => some i
  | .bool b => some (if b then 1 else 0)
  | _ => none

def isFraction : Value → Bool
  | .float _ => true
  | _ => false

/-- The nearest number of double precision to a ratio. -/
def nearest (num : Int) (den : Nat) : Value :=
  .float (if num = 0 then .finite false 0 0 else Decimal.ofRatio (decide (num < 0)) num.natAbs den)

/-- Results are computed only up to this size. -/
def sizeLimit : Nat := 100000

abbrev Outcome := Except Fault Value

/-- What an operator is called where it does not fit its operands. -/
def operatorName (op : BinaryOp) : String := if op = .pow then "** or pow()" else op.symbol

def mismatch (op : BinaryOp) (a b : Value) : Outcome :=
  .error (.operands (operatorName op) a.typeName b.typeName)

def power (a b : Int) : Outcome :=
  if 0 ≤ b then
    if sizeLimit < b.natAbs * (Nat.log2 a.natAbs + 1) then .error .beyondTypes
    else .ok (.int (Int.pow a b.toNat))
  else if a = 0 then .error (.division "0.0 cannot be raised to a negative power")
  else if sizeLimit < b.natAbs * (Nat.log2 a.natAbs + 1) then .error .beyondTypes
  else
    let p := Int.pow a b.natAbs
    .ok (nearest (if p < 0 then -1 else 1) p.natAbs)

def onWholes (op : BinaryOp) (a b : Int) : Outcome :=
  match op with
  | .add => .ok (.int (a + b))
  | .sub => .ok (.int (a - b))
  | .mul => .ok (.int (a * b))
  | .div =>
    if b = 0 then .error (.division "division by zero")
    else .ok (nearest (if b < 0 then -a else a) b.natAbs)
  | .floorDiv =>
    if b = 0 then .error (.division "integer division or modulo by zero")
    else .ok (.int (Int.fdiv a b))
  | .mod =>
    if b = 0 then .error (.division "integer modulo by zero") else .ok (.int (Int.fmod a b))
  | .shiftLeft =>
    if b < 0 then .error .negativeShift
    else if sizeLimit < b.toNat then .error .beyondTypes
    else .ok (.int (a * Nat.pow 2 b.toNat))
  | .shiftRight =>
    if b < 0 then .error .negativeShift
    else if sizeLimit < b.toNat then .error .beyondTypes
    else .ok (.int (Int.fdiv a (Nat.pow 2 b.toNat)))
  | .pow => power a b
  | op => mismatch op (.int a) (.int b)

/-- Two ratios, given by numerators and denominators that are not zero. -/
def onRatios (op : BinaryOp) (a b : Int × Nat) : Outcome :=
  let (m, d) := a
  let (n, e) := b
  let quotient := Int.fdiv (m * e) (n * d)
  match op with
  | .add => .ok (nearest (m * e + n * d) (d * e))
  | .sub => .ok (nearest (m * e - n * d) (d * e))
  | .mul => .ok (nearest (m * n) (d * e))
  | .div =>
    if n = 0 then .error (.division "float division by zero")
    else .ok (nearest (if n < 0 then -(m * e) else m * e) (d * n.natAbs))
  | .floorDiv =>
    if n = 0 then .error (.division "float floor division by zero") else .ok (nearest quotient 1)
  | .mod =>
    if n = 0 then .error (.division "float modulo")
    else .ok (nearest (m * e - quotient * (n * d)) (d * e))
  | _ => .error .beyondTypes

/-- Operators that fractions have. -/
def isOnFractions : BinaryOp → Bool
  | .add | .sub | .mul | .div | .floorDiv | .mod | .pow => true
  | _ => false

def repeated (n : Int) (v : Value) : Outcome :=
  let times := fun {α : Type} (xs : List α) => (List.replicate n.toNat xs).flatten
  let size := match v with
    | .text s => s.length
    | .bytes bs => bs.length
    | .list vs | .tuple vs => vs.length
    | _ => 0
  if sizeLimit < size * n.toNat then .error .beyondTypes
  else match v with
    | .text s => .ok (.text (String.ofList (times s.toList)))
    | .bytes bs => .ok (.bytes (times bs))
    | .list vs => .ok (.list (times vs))
    | .tuple vs => .ok (.tuple (times vs))
    | v => .error (.operands "*" v.typeName "int")

def isSequence : Value → Bool
  | .text _ | .bytes _ | .list _ | .tuple _ => true
  | _ => false

def joinedTo (a b : Value) : Outcome :=
  match a, b with
  | .text s, .text t => .ok (.text (s ++ t))
  | .bytes s, .bytes t => .ok (.bytes (s ++ t))
  | .list s, .list t => .ok (.list (s ++ t))
  | .tuple s, .tuple t => .ok (.tuple (s ++ t))
  | .bytes _, b => .error (.byteConcatenation b.typeName)
  | a, b => .error (.concatenation a.typeName b.typeName)

/-- A span of time with another one, or a number of times. -/
def onSpans? (op : BinaryOp) (a b : Value) : Option Value :=
  match op, a, b with
  | .add, .duration a, .duration b => some (.duration (a + b))
  | .sub, .duration a, .duration b => some (.duration (a - b))
  | .mul, .duration a, b => (whole? b).map fun n => .duration (a * n)
  | .mul, a, .duration b => (whole? a).map fun n => .duration (n * b)
  | _, _, _ => none

def bitOperation? : BinaryOp → Option (Bool → Bool → Bool)
  | .xor => some (fun a b => a != b)
  | .and => some (· && ·)
  | _ => none

/-- What an operator makes of two values; unions are made elsewhere. -/
def combine (op : BinaryOp) (a b : Value) : Outcome :=
  match onSpans? op a b, (bitOperation? op).bind fun f => Value.bitwise? f a b with
  | some v, _ | none, some v => .ok v
  | none, none =>
    match whole? a, whole? b with
    | some m, some n => if bitOperation? op |>.isSome then mismatch op a b else
        if op = .matMul then mismatch op a b else onWholes op m n
    | m, n =>
      if (isFraction a || isFraction b) && (a.ratio?.isSome && b.ratio?.isSome) then
        match a.ratio?, b.ratio? with
        | some x, some y => if isOnFractions op then onRatios op x y else mismatch op a b
        | _, _ => mismatch op a b
      else match op with
        | .add => if isSequence a then joinedTo a b else mismatch op a b
        | .mul =>
          match m, n with
          | some k, none => if isSequence b then repeated k b else mismatch op a b
          | none, some k => if isSequence a then repeated k a else mismatch op a b
          | _, _ =>
            if isSequence a then .error (.repetition b.typeName)
            else if isSequence b then .error (.repetition a.typeName)
            else mismatch op a b
        | .mod => if isSequence a then .error .beyondTypes else mismatch op a b
        | op => mismatch op a b

def negated : Decimal.Binary64 → Decimal.Binary64
  | .nan => .nan
  | .infinite n => .infinite !n
  | .finite n m e => .finite (!n) m e

def applyUnary (op : UnaryOp) (v : Value) : Outcome :=
  match op, v with
  | .minus, .float x => .ok (.float (negated x))
  | .plus, .float x => .ok (.float x)
  | .minus, .duration us => .ok (.duration (-us))
  | .plus, .duration us => .ok (.duration us)
  | op, v =>
    match whole? v with
    | some i =>
      .ok (.int (match op with
        | .minus => -i
        | .plus => i
        | .invert => -i - 1))
    | none => .error (.operand op.symbol v.typeName)

end RecordSchema.Expression
