import RecordSchema.Log.Directive
import RecordSchema.Text.Digit

/-! # Interpolation

A template is filled with values from the left: every directive takes the next value, or the entry
of a table that its key in brackets names. A percent sign is written as two. A message without
arguments is taken as it is.
-/
namespace RecordSchema.Log

/-- What is left to fill a template with. -/
inductive Supply where
  /-- Values that are all to be used. -/
  | row (rest : List Value)
  /-- One value, until it is used. -/
  | single (v : Option Value)
deriving Repr

def Supply.next : Supply → Except TemplateError (Value × Supply)
  | row (v :: rest) => .ok (v, row rest)
  | single (some v) => .ok (v, single none)
  | _ => .error .tooFew

/-- A template being read: the characters ahead, the place of the first of them, and the supply. -/
structure Filling where
  ahead : List Char
  position : Nat := 0
  supply : Supply
deriving Repr

namespace Filling

def skip (f : Filling) (n : Nat) : Filling :=
  { f with ahead := f.ahead.drop n, position := f.position + n }

/-- The characters of a key up to the bracket that closes it; brackets inside it are in pairs. -/
def keyFrom? : Nat → List Char → Option (List Char)
  | _, [] => none
  | 0, ')' :: _ => some []
  | n + 1, ')' :: cs => (')' :: ·) <$> keyFrom? n cs
  | n, '(' :: cs => ('(' :: ·) <$> keyFrom? (n + 1) cs
  | n, c :: cs => (c :: ·) <$> keyFrom? n cs

/-- A key in brackets makes the entry under it the only value of the supply. -/
def readKey (table : Option Table) (f : Filling) : Except TemplateError Filling :=
  match f.ahead with
  | '(' :: cs =>
    match table with
    | none => .error .needsTable
    | some t =>
      match keyFrom? 0 cs with
      | none => .error .unfinishedKey
      | some key =>
        match t.get? (String.ofList key) with
        | none => .error (.unknownKey (String.ofList key))
        | some v => .ok { f.skip (key.length + 2) with supply := .single (some v) }
  | _ => .ok f

/-- The flags that a directive begins with, and how many there are. -/
def flagsOf (flags : Flags) : List Char → Flags × Nat
  | [] => (flags, 0)
  | c :: cs =>
    match flags.add? c with
    | none => (flags, 0)
    | some more =>
      let (all, n) := flagsOf more cs
      (all, n + 1)

/-- A part of a directive that is a number: its name, and the type that its values fit. -/
structure NumberPart where
  name : String
  type : String
  bound : Nat
deriving DecidableEq, Repr

def widthPart : NumberPart := ⟨"width", "ssize_t", Nat.pow 2 63⟩

def precisionPart : NumberPart := ⟨"precision", "int", Nat.pow 2 31⟩

/-- A number in the template, or, for a star, the next value. -/
def readNumber (part : NumberPart) (f : Filling) : Except TemplateError (Option Int × Filling) :=
  match f.ahead with
  | '*' :: _ => do
    let (v, supply) ← f.supply.next
    let f := { f.skip 1 with supply := supply }
    match v with
    | .int i => if part.bound ≤ i.natAbs then .error (.doesNotFit part.type) else .ok (some i, f)
    | .bool b => .ok (some (if b then 1 else 0), f)
    | _ => .error .widthNotWhole
  | cs =>
    let digits := cs.takeWhile Char.isDigit
    if digits.isEmpty then .ok (none, f)
    else if part.bound ≤ Decimal.digitValue digits then .error (.tooBig part.name)
    else .ok (some (Decimal.digitValue digits), f.skip digits.length)

/-- A width below zero asks for the left side. -/
def readWidth (flags : Flags) (f : Filling) : Except TemplateError (Flags × Nat × Filling) := do
  let (n, f) ← f.readNumber widthPart
  match n with
  | some (.negSucc n) => .ok ({ flags with left := true }, n + 1, f)
  | some (.ofNat n) => .ok (flags, n, f)
  | none => .ok (flags, 0, f)

def readPrecision (f : Filling) : Except TemplateError (Option Nat × Filling) :=
  match f.ahead with
  | '.' :: _ => do
    let (n, f) ← (f.skip 1).readNumber precisionPart
    .ok (some (n.getD 0).toNat, f)
  | _ => .ok (none, f)

/-- A length mark says nothing. -/
def skipLength (f : Filling) : Filling :=
  match f.ahead with
  | 'h' :: _ | 'l' :: _ | 'L' :: _ => f.skip 1
  | _ => f

/-- What the directive behind a percent sign writes. -/
def directive (table : Option Table) (f : Filling) :
    Except TemplateError (List Char × Filling) := do
  let f ← f.readKey table
  let (flags, n) := flagsOf {} f.ahead
  let (flags, width, f) ← (f.skip n).readWidth flags
  let (precision, f) ← f.readPrecision
  let f := f.skipLength
  match f.ahead with
  | [] => .error .unfinished
  | c :: _ =>
    let (v, supply) ← f.supply.next
    let cs ← Directive.apply ⟨flags, width, precision, c⟩ f.position v
    .ok (cs, { f.skip 1 with supply := supply })

/-- Every step takes at least one character, so the length of the template bounds their number. -/
def run (table : Option Table) : Nat → Filling → Except TemplateError (List Char × Supply)
  | 0, f => .ok ([], f.supply)
  | n + 1, f =>
    match f.ahead with
    | [] => .ok ([], f.supply)
    | '%' :: '%' :: _ => do
      let (rest, supply) ← run table n (f.skip 2)
      .ok ('%' :: rest, supply)
    | '%' :: _ => do
      let (cs, f) ← directive table (f.skip 1)
      let (rest, supply) ← run table n f
      .ok (cs ++ rest, supply)
    | c :: _ => do
      let (rest, supply) ← run table n (f.skip 1)
      .ok (c :: rest, supply)

end Filling

/-- A table that fills a template need not be used up. -/
def Supply.isUsed (table : Option Table) : Supply → Bool
  | row (_ :: _) => table.isSome
  | _ => true

def fillWith (template : String) (table : Option Table) (supply : Supply) :
    Except TemplateError String := do
  let cs := template.toList
  let (out, supply) ← Filling.run table cs.length { ahead := cs, supply := supply }
  if supply.isUsed table then .ok (String.ofList out) else .error .tooMany

/-- A single table that has entries is looked into by keys. -/
def interpolate (template : String) (args : List Value) : Except TemplateError String :=
  match args with
  | [] => .ok template
  | [.table (e :: es)] => fillWith template (some (e :: es)) (.single (some (.table (e :: es))))
  | args => fillWith template none (.row args)

end RecordSchema.Log
