import RecordSchema.Toml.Lexeme
import RecordSchema.Text.Blank
import RecordSchema.Value

/-! # Dates and times in TOML

A date, a time of day, or both with an optional offset, whose sign may also be a bar. Seconds may be
left out, and their fractions are cut after six digits.
-/
namespace RecordSchema.Toml

/-- The number that exactly `n` digits write. -/
def digits? : Nat → List Char → Option (Nat × List Char)
  | n, cs =>
    let front := cs.take n
    if front.length = n ∧ front.all Char.isDigit then
      some (front.foldl (fun v c => v * 10 + (c.toNat - '0'.toNat)) 0, cs.drop n)
    else none

def char? (p : Char → Bool) : List Char → Option (Char × List Char)
  | c :: cs => if p c then some (c, cs) else none
  | [] => none

def date? (cs : List Char) : Option (Date × List Char) := do
  let (year, cs) ← digits? 4 cs
  let (_, cs) ← char? (· == '-') cs
  let (month, cs) ← digits? 2 cs
  let (_, cs) ← char? (· == '-') cs
  let (day, cs) ← digits? 2 cs
  let d : Date := ⟨year, month, day⟩
  if d.isValid then some (d, cs) else none

/-- Six digits after the point, with zeros for those that are not written. -/
def micros (digits : List Char) : Nat :=
  ((digits ++ ['0', '0', '0', '0', '0', '0']).take 6).foldl
    (fun v c => v * 10 + (c.toNat - '0'.toNat)) 0

def fraction? (cs : List Char) : Option (Nat × List Char) :=
  match cs with
  | '.' :: rest =>
    let digits := rest.takeWhile Char.isDigit
    if digits.isEmpty then none else some (micros digits, rest.dropWhile Char.isDigit)
  | _ => some (0, cs)

/-- The seconds of a time and their fraction, which may be left out together. -/
def seconds? (cs : List Char) : Option ((Nat × Nat) × List Char) :=
  match cs with
  | ':' :: rest => do
    let (second, rest) ← digits? 2 rest
    let (microsecond, rest) ← fraction? rest
    some ((second, microsecond), rest)
  | _ => some ((0, 0), cs)

def time? (cs : List Char) : Option (ClockTime × List Char) := do
  let (hour, cs) ← digits? 2 cs
  let (_, cs) ← char? (· == ':') cs
  let (minute, cs) ← digits? 2 cs
  let ((second, microsecond), cs) ← seconds? cs
  let t : ClockTime := ⟨hour, minute, second, microsecond⟩
  if t.isValid then some (t, cs) else none

/-- Universal time. -/
def zulu : Zone := ⟨0, "UTC"⟩

def zone? (cs : List Char) : Option (Option Zone × List Char) :=
  match cs with
  | [] => some (none, [])
  | 'Z' :: cs => some (some zulu, cs)
  | 'z' :: cs => some (some zulu, cs)
  | sign :: rest =>
    if sign = '+' ∨ sign = '-' ∨ sign = '|' then do
      let (hours, more) ← digits? 2 rest
      let (_, more) ← char? (· == ':') more
      let (minutes, more) ← digits? 2 more
      let seconds : Int := hours * 3600 + minutes * 60
      if hours < 24 ∧ minutes < 60 then
        some (some ⟨if sign = '-' then -seconds else seconds, String.ofList (sign :: rest.take 5)⟩,
          more)
      else none
    else none

/-- The date and time that a text writes in full. -/
def moment? (cs : List Char) : Option Value := do
  let (d, cs) ← date? cs
  let (_, cs) ← char? (fun c => c == 'T' || c == 't' || c == ' ') cs
  let (t, cs) ← time? cs
  let (z, cs) ← zone? cs
  if cs.isEmpty then some (.moment d t z) else none

def dateOnly? (cs : List Char) : Option Value :=
  match date? cs with
  | some (d, []) => some (.date d)
  | _ => none

def timeOnly? (cs : List Char) : Option Value :=
  match time? cs with
  | some (t, []) => some (.time t)
  | _ => none

/-- A date may be followed by a blank and a time, which then belong to it. -/
def dateAndRest (raw : List Char) (d : Value) (rest : List Char) :
    Except Fault (Value × List Char) :=
  let ends := fun c => endsToken c && c != ' '
  let more := Text.stripEnd (rest.takeWhile fun c => !ends c)
  let after := rest.dropWhile fun c => !ends c
  if more.isEmpty then .ok (d, after)
  else match moment? (raw ++ more) with
    | some v => .ok (v, after)
    | none => bad

end RecordSchema.Toml
