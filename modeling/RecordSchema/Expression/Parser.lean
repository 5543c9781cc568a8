import RecordSchema.Expression.Basic
import RecordSchema.Expression.Token

/-! # Reading expressions

Operators bind in eleven degrees, from the weakest, `or`, to the strongest, powers; conditions and
functions bind more weakly than all of them. A text is well formed if it is one expression, or
several with commas between them, which then make a tuple.

Not everything that an expression may be is read here. Left out are displays that are made by going
through something (`for`), spreading by two stars in a table or a call, texts in which something is
filled in, and characters that are given by their names (`\N`). `leavesOut` tells such texts from
those that are no expressions.
-/
namespace RecordSchema.Expression

def symbolIs (s : String) : Token → Bool
  | .symbol t => s == t
  | _ => false

/-- What follows a symbol. -/
def afterSymbol (s : String) : List Token → Option (List Token)
  | .symbol t :: rest => if s = t then some rest else none
  | _ => none

def afterWord (s : String) : List Token → Option (List Token)
  | .word t :: rest => if s = t then some rest else none
  | _ => none

/-- Whether a symbol is next. -/
def sees (s : String) (ts : List Token) : Bool := (afterSymbol s ts).isSome

def weakestBinary : Nat := 4

def strongestBinary : Nat := 9

/-- The operators between two operands that bind in a degree, all from left to right. -/
def binaryAt : Nat → List BinaryOp
  | 4 => [.or]
  | 5 => [.xor]
  | 6 => [.and]
  | 7 => [.shiftLeft, .shiftRight]
  | 8 => [.add, .sub]
  | 9 => [.mul, .div, .floorDiv, .mod, .matMul]
  | _ => []

def binaryOp? (degree : Nat) : List Token → Option (BinaryOp × List Token)
  | .symbol s :: rest => ((binaryAt degree).find? fun op => op.symbol == s).map fun op => (op, rest)
  | _ => none

def comparisonSymbols : List (String × Comparison) :=
  [("==", .eq), ("!=", .ne), ("<", .lt), ("<=", .le), (">", .gt), (">=", .ge)]

def comparison? : List Token → Option (Comparison × List Token)
  | .symbol s :: rest => (comparisonSymbols.lookup s).map fun c => (c, rest)
  | .word "in" :: rest => some (.within, rest)
  | .word "not" :: .word "in" :: rest => some (.notWithin, rest)
  | .word "is" :: .word "not" :: rest => some (.isNot, rest)
  | .word "is" :: rest => some (.is, rest)
  | _ => none

def unaryOp? : List Token → Option (UnaryOp × List Token)
  | .symbol "+" :: rest => some (.plus, rest)
  | .symbol "-" :: rest => some (.minus, rest)
  | .symbol "~" :: rest => some (.invert, rest)
  | _ => none

def constantWord? : String → Option Value
  | "None" => some .null
  | "True" => some (.bool true)
  | "False" => some (.bool false)
  | _ => none

/-- Texts that follow one another are one text, and so are bytes; the two do not mix. -/
def joined (v w : Value) : Option Value :=
  match v, w with
  | .text s, .text t => some (.text (s ++ t))
  | .bytes s, .bytes t => some (.bytes (s ++ t))
  | _, _ => none

def isTextual : Value → Bool
  | .text _ | .bytes _ => true
  | _ => false

def joinTexts (v : Value) : List Token → Option (Value × List Token)
  | .constant w :: rest =>
    if isTextual v && isTextual w then (joined v w).bind fun u => joinTexts u rest else none
  | rest => some (v, rest)

/-- A spread item stands only among other items. -/
def isSpread : Expression → Bool
  | spread _ => true
  | _ => false

/-- What is neither spread nor given a name can stand by itself. -/
def standsAlone : Expression → Bool
  | spread _ | bound .. => false
  | _ => true

/-- What brackets make of a single item. -/
def inBrackets : Expression → Option Expression
  | spread _ => none
  | bound _ e => some e
  | e => some e

/-- What an argument of a call is. -/
inductive Argument where
  | plain (e : Expression)
  | named (name : String) (e : Expression)

def Argument.plain? : Argument → Option Expression
  | plain e => some e
  | named .. => none

def Argument.named? : Argument → Option (String × Expression)
  | plain _ => none
  | named n e => some (n, e)

/-- Arguments in order: no plain one behind a named one, and no name twice. -/
def callOf (callee : Expression) (args : List Argument) : Option Expression :=
  let behind := args.dropWhile fun a => a.plain?.isSome
  let names := behind.filterMap Argument.named?
  if (behind.filterMap Argument.plain?).all isSpread && names.map (·.1) == (names.map (·.1)).eraseDups
  then some (.call callee (args.filterMap Argument.plain?) names)
  else none

/-- Several entries of a display: pairs, or items alone, but not both. -/
def displayOf (entries : List (Expression × Option Expression)) : Option Expression :=
  if entries.all fun e => e.2.isSome then
    some (.table (entries.map (·.1)) (entries.filterMap (·.2)))
  else if entries.all fun e => e.2.isNone then some (.set (entries.map (·.1)))
  else none

/-- Whether the tokens can end a list of items that a comma may close. -/
def endsItems : List Token → Bool
  | [] => true
  | .lineEnd :: _ => true
  | t :: _ => symbolIs ")" t || symbolIs "]" t || symbolIs "\x7d" t

mutual

def expressionWithin : Nat → List Token → Option (Expression × List Token)
  | 0, _ => none
  | n + 1, .word "lambda" :: ts => do
    let (defaults, ts) ← parametersWithin n ts
    let (body, ts) ← expressionWithin n ts
    some (.function defaults body, ts)
  | n + 1, ts => do
    let (yes, ts) ← degreeWithin n 0 ts
    match afterWord "if" ts with
    | none => some (yes, ts)
    | some ts => do
      let (condition, ts) ← degreeWithin n 0 ts
      let ts ← afterWord "else" ts
      let (no, ts) ← expressionWithin n ts
      some (.choice yes condition no, ts)

/-- The parameters of a function, up to the colon behind them. -/
def parametersWithin : Nat → List Token → Option (List Expression × List Token)
  | 0, _ => none
  | n + 1, ts =>
    match ts with
    | .symbol ":" :: rest => some ([], rest)
    | .name _ :: .symbol "=" :: rest => do
      let (e, rest) ← expressionWithin n rest
      let (es, rest) ← if sees ":" rest then parametersWithin n rest
        else (afterSymbol "," rest).bind (parametersWithin n)
      some (e :: es, rest)
    | .name _ :: rest =>
      if sees ":" rest then parametersWithin n rest
      else (afterSymbol "," rest).bind (parametersWithin n)
    | .symbol "*" :: rest | .symbol "**" :: rest | .symbol "/" :: rest =>
      if sees ":" rest then parametersWithin n rest
      else if sees "," rest then (afterSymbol "," rest).bind (parametersWithin n)
      else parametersWithin n rest
    | _ => none

/-- An expression whose operators bind at least in the given degree. -/
def degreeWithin : Nat → Nat → List Token → Option (Expression × List Token)
  | 0, _, _ => none
  | n + 1, 0, ts => do
    let (a, ts) ← degreeWithin n 1 ts
    match afterWord "or" ts with
    | none => some (a, ts)
    | some ts => do
      let (b, ts) ← degreeWithin n 0 ts
      some (.either a b, ts)
  | n + 1, 1, ts => do
    let (a, ts) ← degreeWithin n 2 ts
    match afterWord "and" ts with
    | none => some (a, ts)
    | some ts => do
      let (b, ts) ← degreeWithin n 1 ts
      some (.both a b, ts)
  | n + 1, 2, ts =>
    match afterWord "not" ts with
    | some ts => (degreeWithin n 2 ts).map fun r => (.negation r.1, r.2)
    | none => do
      let (a, ts) ← degreeWithin n weakestBinary ts
      let (links, ts) ← comparisonsWithin n ts
      if links.isEmpty then some (a, ts)
      else some (.comparison a (links.map (·.1)) (links.map (·.2)), ts)
  | n + 1, degree, ts =>
    if degree ≤ strongestBinary then do
      let (a, ts) ← degreeWithin n (degree + 1) ts
      binaryWithin n degree a ts
    else match unaryOp? ts with
      | some (op, ts) => (degreeWithin n degree ts).map fun r => (.unary op r.1, r.2)
      | none => do
        let (base, ts) ← primaryWithin n ts
        match afterSymbol "**" ts with
        | none => some (base, ts)
        | some ts => (degreeWithin n degree ts).map fun r => (.binary .pow base r.1, r.2)

def comparisonsWithin : Nat → List Token → Option (List (Comparison × Expression) × List Token)
  | 0, _ => none
  | n + 1, ts =>
    match comparison? ts with
    | none => some ([], ts)
    | some (c, ts) => do
      let (e, ts) ← degreeWithin n weakestBinary ts
      let (more, ts) ← comparisonsWithin n ts
      some ((c, e) :: more, ts)

/-- The further operands of a degree. -/
def binaryWithin : Nat → Nat → Expression → List Token → Option (Expression × List Token)
  | 0, _, _, _ => none
  | n + 1, degree, a, ts =>
    match binaryOp? degree ts with
    | none => some (a, ts)
    | some (op, ts) => do
      let (b, ts) ← degreeWithin n (degree + 1) ts
      binaryWithin n degree (.binary op a b) ts

def primaryWithin : Nat → List Token → Option (Expression × List Token)
  | 0, _ => none
  | n + 1, ts => do
    let (e, ts) ← atomWithin n ts
    trailersWithin n e ts

def atomWithin : Nat → List Token → Option (Expression × List Token)
  | 0, _ => none
  | n + 1, ts =>
    match ts with
    | .name s :: rest => some (.name s, rest)
    | .word s :: rest => (constantWord? s).map fun v => (.constant v, rest)
    | .constant v :: rest => (joinTexts v rest).map fun r => (.constant r.1, r.2)
    | .symbol "..." :: rest => some (.dots, rest)
    | .symbol "(" :: rest => do
      let (items, comma, rest) ← itemsWithin n rest
      let rest ← afterSymbol ")" rest
      match items with
      | [e] =>
        if comma then some (.tuple [e], rest) else (inBrackets e).map fun e => (e, rest)
      | items => some (.tuple items, rest)
    | .symbol "[" :: rest => do
      let (items, _, rest) ← itemsWithin n rest
      let rest ← afterSymbol "]" rest
      some (.list items, rest)
    | .symbol "\x7b" :: rest => do
      let (entries, rest) ← entriesWithin n rest
      let rest ← afterSymbol "\x7d" rest
      (displayOf entries).map fun e => (e, rest)
    | _ => none

/-- An item of a display: an expression, one that is given a name, or one that is spread out. -/
def itemWithin : Nat → List Token → Option (Expression × List Token)
  | 0, _ => none
  | n + 1, ts =>
    match ts with
    | .symbol "*" :: rest =>
      (degreeWithin n weakestBinary rest).map fun r => (.spread r.1, r.2)
    | .name s :: .symbol ":=" :: rest =>
      (expressionWithin n rest).map fun r => (.bound s r.1, r.2)
    | _ => expressionWithin n ts

/-- Items with commas between them, and whether a comma stands behind the last one. -/
def itemsWithin : Nat → List Token → Option (List Expression × Bool × List Token)
  | 0, _ => none
  | n + 1, ts =>
    if endsItems ts then some ([], false, ts)
    else do
      let (e, ts) ← itemWithin n ts
      match afterSymbol "," ts with
      | none => some ([e], false, ts)
      | some ts => do
        let (es, comma, ts) ← itemsWithin n ts
        some (e :: es, comma || es.isEmpty, ts)

def entriesWithin : Nat → List Token → Option (List (Expression × Option Expression) × List Token)
  | 0, _ => none
  | n + 1, ts =>
    if endsItems ts then some ([], ts)
    else do
      let (e, ts) ← itemWithin n ts
      let (v, ts) ← match afterSymbol ":" ts with
        | none => some (none, ts)
        | some ts =>
          if standsAlone e then (expressionWithin n ts).map fun r => (some r.1, r.2) else none
      match afterSymbol "," ts with
      | none => some ([(e, v)], ts)
      | some ts => do
        let (es, ts) ← entriesWithin n ts
        some ((e, v) :: es, ts)

/-- The attributes, subscripts and arguments behind an expression. -/
def trailersWithin : Nat → Expression → List Token → Option (Expression × List Token)
  | 0, _, _ => none
  | n + 1, e, ts =>
    match ts with
    | .symbol "." :: .name s :: rest => trailersWithin n (.member e s) rest
    | .symbol "(" :: rest => do
      let (args, rest) ← argumentsWithin n rest
      let rest ← afterSymbol ")" rest
      let call ← callOf e args
      trailersWithin n call rest
    | .symbol "[" :: rest => do
      let (indices, comma, rest) ← indicesWithin n rest
      let rest ← afterSymbol "]" rest
      match indices with
      | [] => none
      | [i] =>
        trailersWithin n (.subscript e (if comma || isSpread i then .tuple [i] else i)) rest
      | is => trailersWithin n (.subscript e (.tuple is)) rest
    | ts => some (e, ts)

def argumentsWithin : Nat → List Token → Option (List Argument × List Token)
  | 0, _ => none
  | n + 1, ts =>
    if endsItems ts then some ([], ts)
    else do
      let (a, ts) ← match ts with
        | .name s :: .symbol "=" :: rest => (expressionWithin n rest).map fun r => (.named s r.1, r.2)
        | .symbol "*" :: rest => (expressionWithin n rest).map fun r => (.plain (.spread r.1), r.2)
        | ts => (itemWithin n ts).map fun r => (.plain r.1, r.2)
      match afterSymbol "," ts with
      | none => some ([a], ts)
      | some ts => do
        let (more, ts) ← argumentsWithin n ts
        some (a :: more, ts)

def indicesWithin : Nat → List Token → Option (List Expression × Bool × List Token)
  | 0, _ => none
  | n + 1, ts =>
    if endsItems ts then some ([], false, ts)
    else do
      let (e, ts) ← indexWithin n ts
      match afterSymbol "," ts with
      | none => some ([e], false, ts)
      | some ts => do
        let (es, comma, ts) ← indicesWithin n ts
        some (e :: es, comma || es.isEmpty, ts)

/-- A position, or a range of them. -/
def indexWithin : Nat → List Token → Option (Expression × List Token)
  | 0, _ => none
  | n + 1, ts => do
    let (first, ts) ← if sees ":" ts then some (.constant .null, ts) else itemWithin n ts
    match afterSymbol ":" ts with
    | none => some (first, ts)
    | some ts =>
      if !standsAlone first then none else do
      let (last, ts) ← boundWithin n ts
      match afterSymbol ":" ts with
      | none => some (.range first last (.constant .null), ts)
      | some ts => do
        let (step, ts) ← boundWithin n ts
        some (.range first last step, ts)

/-- The end of a range, if there is one. -/
def boundWithin : Nat → List Token → Option (Expression × List Token)
  | 0, _ => none
  | n + 1, ts =>
    if sees ":" ts || sees "," ts || sees "]" ts then some (.constant .null, ts)
    else expressionWithin n ts

end

/-- Expressions with commas between them: a tuple if there is a comma. -/
def expressionsWithin (n : Nat) (ts : List Token) : Option (Expression × List Token) := do
  let (items, comma, ts) ← itemsWithin n ts
  if !items.all standsAlone then none
  else match items with
    | [] => none
    | [e] => some (if comma then .tuple [e] else e, ts)
    | items => some (.tuple items, ts)

/-- How many steps the reading of so many tokens can take: fifteen lead from the weakest degree to
a token and back. -/
def stepsFor (tokens : Nat) : Nat := 16 * (tokens + 2)

def isLineEnd : Token → Bool
  | .lineEnd => true
  | _ => false

def parseTokens (ts : List Token) : Option Expression := do
  let (e, rest) ← expressionsWithin (stepsFor ts.length) ts
  if rest.all isLineEnd then some e else none

/-- The expression that a text is. A text that begins with a star stands for the first of the items
that it spreads out. -/
def parse? (s : String) : Option Expression :=
  let text := if s.toList.head? == some '*' then "(" ++ s ++ ",)[0]" else s
  (tokens text).bind parseTokens

def isWellFormed (s : String) : Bool := (parse? s).isSome

def isLeftOut : Token → Bool
  | .word s => s == "for"
  | .symbol s => s == "**"
  | _ => false

/-- Whether there is a brace, as where something is filled into a text, or a character that is given
by its name. -/
def hasLeftOutMark : List Char → Bool
  | [] => false
  | c :: cs => c == '\x7b' || (c == '\\' && cs.head? == some 'N') || hasLeftOutMark cs

/-- Whether a text that is not read may still be an expression, of a form that is left out here. -/
def leavesOut (s : String) : Bool :=
  match tokens s with
  | some ts => ts.any isLeftOut
  | none => hasLeftOutMark s.toList

end RecordSchema.Expression
