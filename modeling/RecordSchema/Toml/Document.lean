import RecordSchema.Toml.Literal

/-! # TOML documents

A document is a table: entries first, then one part under each header. The part of a header goes on
as long as the headers that follow lie below it, and it is added to the table around it when it is
complete. What goes wrong when a part is added to the document itself makes the document malformed,
whereas further inside the key that is taken is named.
-/
namespace RecordSchema.Toml

/-- A header: what it opens, and whether that is one more of several tables. -/
structure Header where
  key : List String
  item : Bool
deriving DecidableEq, Repr

/-- A header up to its key. -/
def headerKey (cs : List Char) : Except Fault (Header × List Char) :=
  match cs with
  | '[' :: '[' :: rest => do
    let (k, rest) ← key rest
    .ok (⟨k, true⟩, rest)
  | '[' :: rest => do
    let (k, rest) ← key rest
    .ok (⟨k, false⟩, rest)
  | _ => bad

def header (cs : List Char) : Except Fault (Header × List Char) := do
  let (h, rest) ← headerKey cs
  match h.item, rest with
  | true, ']' :: ']' :: rest => .ok (h, ← endLine rest)
  | false, ']' :: rest => .ok (h, ← endLine rest)
  | _, _ => bad

def isBelow (key outer : List String) : Bool :=
  outer.isPrefixOf key && decide (outer.length < key.length)

/-- The entries up to the next header, added to a table by `put`. -/
def entries (put : Body → Entry → Except Fault Body) :
    Nat → Body → List Char → Except Fault (Body × List Char)
  | 0, b, cs => .ok (b, cs)
  | n + 1, b, cs => do
    match ← between cs with
    | [] => .ok (b, [])
    | '[' :: rest => .ok (b, '[' :: rest)
    | cs =>
      let (k, rest) ← entryKey cs
      let (v, rest) ← outerValue rest
      let rest ← endLine rest
      entries put n (← put b (dottedEntry v k)) rest

/-- Where a header stands: the header around it, and the keys whose lists of tables are being
continued, innermost first. -/
structure Surroundings where
  outer : List String := []
  lists : List (List String) := []

mutual

/-- The part under the header at the front. Every header takes at least one character, so the length
of the text bounds the steps. -/
def headerPart : Nat → Surroundings → List Char → Except Fault (Entry × List Char)
  | 0, _, _ => bad
  | n + 1, s, cs => do
    let (h, rest) ← header cs
    let names := h.key.drop s.outer.length
    let (b, rest) ← entries (insert budget false) n [] rest
    let (b, rest) ← below n { s with outer := h.key } b rest
    checkAll budget b
    let p := Part.table false h.item b
    if 1 < names.length then
      let item := h.item && s.lists.contains (names.take 1)
      .ok (headerEntry item h.item p names, rest)
    else if h.item && s.lists.head? != some h.key then
      let (items, rest) ← siblings n h.key (h.key :: s.lists) [p] rest
      .ok (headerEntry false false (.tables items) names, rest)
    else .ok (headerEntry false false p names, rest)

/-- The parts under the headers that lie below the one around them. -/
def below : Nat → Surroundings → Body → List Char → Except Fault (Body × List Char)
  | 0, _, b, cs => .ok (b, cs)
  | _, _, b, [] => .ok (b, [])
  | n + 1, s, b, cs => do
    let (h, _) ← headerKey cs
    if isBelow h.key s.outer then
      let (e, rest) ← headerPart n s cs
      below n s (← insert budget false b e) rest
    else .ok (b, cs)

/-- The further tables of a list. -/
def siblings : Nat → List String → List (List String) → List Part → List Char →
    Except Fault (List Part × List Char)
  | 0, _, _, items, cs => .ok (items, cs)
  | _, _, _, items, [] => .ok (items, [])
  | n + 1, key, lists, items, cs => do
    let (h, _) ← headerKey cs
    if h = ⟨key, true⟩ then
      let (e, rest) ← headerPart n ⟨key, lists⟩ cs
      siblings n key lists (items ++ [e.2]) rest
    else .ok (items, cs)

end

/-- Add a part to the document itself. -/
def addOuter (b : Body) (e : Entry) : Except Fault Body :=
  (add budget true b e).mapError fun _ => .malformed

def outerParts : Nat → Body → List Char → Except Fault Body
  | 0, b, _ => .ok b
  | _, b, [] => .ok b
  | n + 1, b, cs => do
    let (e, rest) ← headerPart n {} cs
    outerParts n (← addOuter b e) rest

/-- The table that a text writes. -/
def parse (s : String) : Except Fault Table := do
  let cs := s.toList
  let steps := cs.length + 1
  let (b, rest) ← entries addOuter steps [] cs
  readBody budget (← outerParts steps b rest)

end RecordSchema.Toml
