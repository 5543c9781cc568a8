import RecordSchema.Toml.Key
import RecordSchema.Value

/-! # Tables under construction

A table is built as the list of its entries in the order in which they are written. One key may have
several entries as long as all of them are pieces of one table: headers and dotted keys return to
tables that they made before. The pieces are joined when the table is read.
-/
namespace RecordSchema.Toml

/-- The name of an entry, and whether a dotted key made it. -/
structure Label where
  key : String
  dotted : Bool := false
deriving DecidableEq, Repr

inductive Part where
  | leaf (v : Value)
  /-- A table, or a piece of one. It is implied when only its inner tables have headers, and an item
  when it belongs to a list of tables. -/
  | table (implied item : Bool) (entries : List (Label × Part))
  | tables (items : List Part)
deriving Inhabited, Repr

abbrev Entry := Label × Part

abbrev Body := List Entry

namespace Body

def parts (b : Body) (key : String) : List Part :=
  b.filterMap fun e => if e.1.key = key then some e.2 else none

/-- The keys, each at the place of its first entry. -/
def keys (b : Body) : List String := (b.map fun e => e.1.key).eraseDups

def last? (b : Body) (key : String) : Option Entry :=
  (b.filter fun e => e.1.key == key).getLast?

/-- Put a part in the place of the last one under a key. -/
def replaceLast (b : Body) (key : String) (p : Part) : Body :=
  let rec go : List Entry → List Entry
    | [] => []
    | e :: rest => if e.1.key = key then (e.1, p) :: rest else e :: go rest
  (go b.reverse).reverse

/-- The key of the table that was added last. -/
def lastTable? (b : Body) : Option String :=
  (b.filter fun e => e.2 matches .table ..).getLast?.map (·.1.key)

end Body

/-- The entries of those parts that are tables. -/
def pieces (ps : List Part) : List Body :=
  ps.filterMap fun p =>
    match p with
    | .table _ _ es => some es
    | _ => none

/-- Only a table can be continued by a further entry of its key. -/
def joinOne (b : Body) (e : Entry) : Except Fault Body :=
  match b.last? e.1.key with
  | none | some (_, .table ..) => .ok (b ++ [e])
  | some _ => .error (.keyPresent e.1.key)

/-- The entries of several pieces as those of one table. -/
def join (bodies : List Body) : Except Fault Body := bodies.flatten.foldlM joinOne []

/-- An implied table after a list of tables; whether it fits is not decided before the pieces are
joined. -/
def isLateItem (b : Body) (e : Entry) : Bool :=
  match e, b.last? e.1.key with
  | (⟨_, false⟩, .table true _ _), some (_, .tables _) => true
  | _, _ => false

mutual

/-- Add an entry. A key that has an entry already takes another one only if both are tables that can
be continued, or lists of tables. The tables of headers that follow each other are merged; those that
are apart stay apart, and in a strict addition their pieces must agree. The budget bounds the depth
of the tables. -/
def add : Nat → Bool → Body → Entry → Except Fault Body
  | 0, _, _, _ => bad
  | n + 1, strict, b, e => do
    let taken : Except Fault Body := .error (.keyPresent e.1.key)
    let appended := do
      let b := b ++ [e]
      if strict then checkKey n b e.1.key
      .ok b
    let ps := b.parts e.1.key
    if 1 < ps.length then discard (joined n ps)
    match b.last? e.1.key with
    | none => .ok (b ++ [e])
    | some (label, current) =>
      match e.2, current with
      | .table _ true _, .tables items => .ok (b.replaceLast e.1.key (.tables (items ++ [e.2])))
      | .table _ true _, .table .. => .ok (b.replaceLast e.1.key (.tables [current, e.2]))
      | .table true _ inner, .table true item entries =>
        if e.1.dotted ∨ label.dotted ∨ b.lastTable? ≠ some e.1.key then appended
        else do
          let entries ← inner.foldlM (insert n true) entries
          .ok (b.replaceLast e.1.key (.table true item entries))
      | .table false _ _, .table true _ _ => if label.dotted then .error .redefined else appended
      | .table true _ _, .table false _ _ => appended
      | .tables items, .tables earlier =>
        .ok (b.replaceLast e.1.key (.tables (earlier ++ items)))
      | _, _ => taken

/-- Add an entry to a table whose entries under the same key are looked at again at once. -/
def insert : Nat → Bool → Body → Entry → Except Fault Body
  | 0, _, _, _ => bad
  | n + 1, strict, b, e => do
    let b ← add n strict b e
    let ps := b.parts e.1.key
    if 1 < ps.length then discard (joined n ps)
    .ok b

/-- The entries that the parts under one key have together. -/
def joined : Nat → List Part → Except Fault Body
  | 0, _ => bad
  | n + 1, ps => do
    let b ← join (pieces ps)
    checkAll n b
    .ok b

/-- Whether the parts under one key can be pieces of one table. -/
def checkKey : Nat → Body → String → Except Fault Unit
  | 0, _, _ => bad
  | n + 1, b, key => do
    let ps := b.parts key
    if 1 < ps.length then
      let whole ← (pieces ps).flatten.foldlM
        (fun t e => if isLateItem t e then .ok t else add n false t e) []
      checkAll n whole

def checkAll : Nat → Body → Except Fault Unit
  | 0, _ => bad
  | n + 1, b => b.keys.forM (checkKey n b)

end

mutual

/-- The table that entries make. -/
def readBody : Nat → Body → Except Fault Table
  | 0, _ => bad
  | n + 1, b => b.keys.mapM fun k => do .ok (k, ← readParts n (b.parts k))

def readParts : Nat → List Part → Except Fault Value
  | 0, _ => bad
  | n + 1, ps =>
    match ps with
    | [.leaf v] => .ok v
    | [.table _ _ es] => .table <$> readBody n es
    | [.tables items] => .list <$> items.mapM fun p => readParts n [p]
    | ps => do
      let b ← joined n ps
      .table <$> readBody n b

end

/-- The entry of a dotted key: every name but the last one makes a table. -/
def dottedEntry (v : Value) : List String → Entry
  | [] => (⟨"", false⟩, .leaf v)
  | [k] => (⟨k, false⟩, .leaf v)
  | k :: ks => (⟨k, true⟩, .table true false [dottedEntry v ks])

/-- The chain of tables that a header passes through, down to the one that it opens. -/
def headerEntry (item innerItem : Bool) (p : Part) : List String → Entry
  | [] => (⟨"", false⟩, p)
  | [k] => (⟨k, false⟩, p)
  | [k, l] => (⟨k, false⟩, .table true item [(⟨l, false⟩, if innerItem then .tables [p] else p)])
  | k :: ks => (⟨k, false⟩, .table true item [headerEntry false innerItem p ks])

/-- More than the nested steps that keys of the greatest depth, in headers and entries together, can
ask for. -/
def budget : Nat := 20 * depthLimit

end RecordSchema.Toml
