import RecordSchema.Toml.Text

/-! # Keys in TOML

A key is a chain of parts with points between them. A part is quoted, or a run of bare characters
with blanks around it.
-/
namespace RecordSchema.Toml

def isBare (c : Char) : Bool := c.isAlphanum || c == '-' || c == '_'

/-- A bare part; no blanks stand inside it. -/
def bareKey (cs : List Char) : Except Fault (String × List Char) :=
  let run := cs.takeWhile fun c => isBare c || isSpace c
  let part := ((run.dropWhile isSpace).reverse.dropWhile isSpace).reverse
  if part.isEmpty || part.any isSpace then bad
  else .ok (String.ofList part, cs.dropWhile fun c => isBare c || isSpace c)

def quotedKey (cs : List Char) : Except Fault (String × List Char) :=
  match cs with
  | a :: b :: c :: _ =>
    if a = b ∧ b = c then bad else do
      let (part, rest) ← text cs
      .ok (part, skipSpaces rest)
  | _ => do
    let (part, rest) ← text cs
    .ok (part, skipSpaces rest)

def keyPart (cs : List Char) : Except Fault (String × List Char) :=
  let cs := skipSpaces cs
  match cs with
  | c :: _ => if c = '\x27' ∨ c = '\x22' then quotedKey cs else bareKey cs
  | [] => bad

/-- A chain of parts; there are at most `n` of them. -/
def keyParts : Nat → Reader (List String)
  | 0, _ => bad
  | n + 1, cs => do
    let (part, rest) ← keyPart cs
    match rest with
    | '.' :: rest => do
      let (parts, rest) ← keyParts n rest
      .ok (part :: parts, rest)
    | _ => .ok ([part], rest)

/-- Neither a key nor the collections around a value go deeper than this. -/
def depthLimit : Nat := 100

def key (cs : List Char) : Except Fault (List String × List Char) := keyParts depthLimit cs

/-- The one equals sign between a key and its value. -/
def equalsSign (cs : List Char) : Except Fault (List Char) :=
  match skipSpaces cs with
  | '=' :: rest =>
    match skipSpaces rest with
    | '=' :: _ => bad
    | rest => .ok rest
  | rest => due rest

end RecordSchema.Toml
