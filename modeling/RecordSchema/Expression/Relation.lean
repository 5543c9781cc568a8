import RecordSchema.Expression.Arithmetic

/-! # Comparing values

Any two values are equal or not. Only numbers, texts, lists, tuples and spans of time have an order,
each among their own kind.
-/
namespace RecordSchema.Expression

def orderSymbol : Comparison → String
  | .lt => "<"
  | .le => "<="
  | .gt => ">"
  | _ => ">="

def ofOrdering (c : Comparison) (o : Ordering) : Bool :=
  match c with
  | .lt => o == .lt
  | .le => o != .gt
  | .gt => o == .gt
  | _ => o != .lt

def bytesOrder (a b : List UInt8) : Ordering :=
  compareOfLessAndEq (a.map UInt8.toNat) (b.map UInt8.toNat)

/-- The order of two values of a kind that has one, where neither is made of others. -/
def simpleOrder? (a b : Value) : Option Ordering :=
  match a, b with
  | .text s, .text t => some (compareOfLessAndEq s t)
  | .bytes s, .bytes t => some (bytesOrder s t)
  | .duration m, .duration n => some (compareOfLessAndEq m n)
  | a, b =>
    match a.ratio?, b.ratio? with
    | some (m, d), some (n, e) => some (compareOfLessAndEq (m * e) (n * d))
    | _, _ => none

mutual

def ordered (c : Comparison) : Value → Value → Except Fault Bool
  | .list as, .list bs => orderedItems c as bs
  | .tuple as, .tuple bs => orderedItems c as bs
  | a, b =>
    match simpleOrder? a b with
    | some o => .ok (ofOrdering c o)
    | none => .error (.order (orderSymbol c) a.typeName b.typeName)

/-- The first items that differ decide, and else the lengths. -/
def orderedItems (c : Comparison) : List Value → List Value → Except Fault Bool
  | [], [] => .ok (ofOrdering c .eq)
  | [], _ :: _ => .ok (ofOrdering c .lt)
  | _ :: _, [] => .ok (ofOrdering c .gt)
  | a :: as, b :: bs => if a.equal b then orderedItems c as bs else ordered c a b

end

/-- Whether a text is somewhere in another one. -/
def isPart (part : List Char) : List Char → Bool
  | [] => part.isEmpty
  | c :: cs => part.isPrefixOf (c :: cs) || isPart part cs

def contains (a b : Value) : Except Fault Bool :=
  match b with
  | .list items | .tuple items => .ok (items.any fun i => a.equal i)
  | .table entries | .mapping entries =>
    match a, a.changeable? with
    | .text s, _ => .ok (entries.any fun e => e.1 == s)
    | _, some c => .error (.form (.changeable c))
    | _, none => .ok false
  | .text t =>
    match a with
    | .text s => .ok (isPart s.toList t.toList)
    | a => .error (.notWithinText a.typeName)
  | .bytes _ => .error .beyondTypes
  | .thing "types.GenericAlias" _ => .ok false
  | b => .error (.notIterable b.typeName)

def related (c : Comparison) (a b : Value) : Except Fault Bool :=
  match c with
  | .eq => .ok (a.equal b)
  | .ne => .ok (!a.equal b)
  | .is => .ok (a.same b)
  | .isNot => .ok (!a.same b)
  | .within => contains a b
  | .notWithin => (fun r => !r) <$> contains a b
  | c => ordered c a b

end RecordSchema.Expression
