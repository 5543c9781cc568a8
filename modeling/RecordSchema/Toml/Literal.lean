import RecordSchema.Toml.Body
import RecordSchema.Toml.Moment
import RecordSchema.Toml.Number

/-! # Values in TOML

A value is a text, a number, a date, a truth value, a list or a table between braces. Lists and such
tables run over several lines if they need to, with comments between their items, and a comma may
follow the last item.
-/
namespace RecordSchema.Toml

def named? (word : List Char) : Option Value :=
  if word = ['t', 'r', 'u', 'e'] then some (.bool true)
  else if word = ['f', 'a', 'l', 's', 'e'] then some (.bool false)
  else if word = ['i', 'n', 'f'] then some (.float (.infinite false))
  else if word = ['n', 'a', 'n'] then some (.float .nan)
  else none

/-- A value that is neither a text nor a collection. -/
def scalar (cs : List Char) : Except Fault (Value × List Char) :=
  let (raw, rest) := token cs
  match named? raw with
  | some v => .ok (v, rest)
  | none =>
    match raw with
    | [] => due cs
    | c :: _ =>
      if c.isDigit then
        match moment? raw, dateOnly? raw, timeOnly? raw with
        | some v, _, _ => .ok (v, rest)
        | none, some d, _ => dateAndRest raw d rest
        | none, none, some t => .ok (t, rest)
        | none, none, none =>
          match number? raw with
          | some v => .ok (v, rest)
          | none => bad
      else if c = '+' ∨ c = '-' then
        match number? raw with
        | some v => .ok (v, rest)
        | none => bad
      else bad

/-- Blanks, line ends and comments between the items of a list; every step passes one character or
one comment, so the length of the text bounds the steps. -/
def skipBetween : Nat → List Char → Except Fault (List Char)
  | 0, cs => .ok cs
  | n + 1, cs =>
    match cs with
    | '#' :: rest => do skipBetween n (← skipComment rest)
    | c :: rest => if isSpace c || c == '\n' then skipBetween n rest else .ok cs
    | [] => .ok []

def between (cs : List Char) : Except Fault (List Char) := skipBetween cs.length cs

/-- The key of an entry and the equals sign after it. -/
def entryKey (cs : List Char) : Except Fault (List String × List Char) := do
  let (k, rest) ← key cs
  .ok (k, ← equalsSign rest)

mutual

/-- A value inside so many collections that only `depth` more can be opened. Each step takes at
least one character, so a budget above the length of the text is never used up. -/
def value : Nat → Nat → List Char → Except Fault (Value × List Char)
  | 0, _, _ => bad
  | n + 1, depth, cs =>
    match cs, depth with
    | '[' :: _, 0 | '\x7b' :: _, 0 => bad
    | '[' :: rest, depth + 1 => do
      let (vs, rest) ← listItems n depth rest
      .ok (.list vs, rest)
    | '\x7b' :: rest, depth + 1 => do
      match ← between rest with
      | '\x7d' :: rest => .ok (.table [], rest)
      | rest =>
        let (b, rest) ← inlineEntries n depth [] rest
        .ok (.table (← readBody budget b), rest)
    | c :: _, _ =>
      if c = '\x27' ∨ c = '\x22' then do
        let (t, rest) ← text cs
        .ok (.text t, rest)
      else scalar cs
    | [], _ => bad

/-- The items of a list up to its closing bracket. An item that this bracket cuts off is dropped. -/
def listItems : Nat → Nat → List Char → Except Fault (List Value × List Char)
  | 0, _, _ => bad
  | n + 1, depth, cs => do
    match ← between cs with
    | ']' :: rest => .ok ([], rest)
    | cs =>
      match value n depth cs with
      | .error (.bracket (_ :: rest)) => .ok ([], rest)
      | .error fault => .error fault
      | .ok (v, rest) =>
        match ← between rest with
        | ',' :: rest => do
          let (vs, rest) ← listItems n depth rest
          .ok (v :: vs, rest)
        | ']' :: rest => .ok ([v], rest)
        | _ => bad

/-- The entries of a table up to its closing brace. -/
def inlineEntries : Nat → Nat → Body → List Char → Except Fault (Body × List Char)
  | 0, _, _, _ => bad
  | n + 1, depth, b, cs => do
    let (k, rest) ← entryKey cs
    let (v, rest) ← value n depth rest
    let b ← add budget true b (dottedEntry v k)
    match ← between rest with
    | '\x7d' :: rest => .ok (b, rest)
    | ',' :: rest =>
      match ← between rest with
      | '\x7d' :: rest => .ok (b, rest)
      | rest => inlineEntries n depth b rest
    | rest => due rest

end

/-- The value at the front of a text, outside of all collections. -/
def outerValue (cs : List Char) : Except Fault (Value × List Char) :=
  value (2 * cs.length + 2) depthLimit cs

end RecordSchema.Toml
