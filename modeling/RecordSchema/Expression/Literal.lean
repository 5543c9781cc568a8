import RecordSchema.Text.Digit
import RecordSchema.Value

/-! # Texts in expressions

A text stands between quotes of one kind, one or three on each side. Letters in front of it say
whether it is raw, holds bytes, or has parts in braces that are to be filled in; of the last kind
only texts that fill in nothing can be read.
-/
namespace RecordSchema.Expression

/-- What the letters in front of a text say. -/
structure Manner where
  raw : Bool := false
  bytes : Bool := false
  filled : Bool := false
deriving DecidableEq, Repr

/-- The manner of a text by its letters in lower case. -/
def manners : List (String × Manner) :=
  [("", {}), ("u", {}), ("r", ⟨true, false, false⟩), ("b", ⟨false, true, false⟩),
    ("f", ⟨false, false, true⟩), ("br", ⟨true, true, false⟩), ("rb", ⟨true, true, false⟩),
    ("fr", ⟨true, false, true⟩), ("rf", ⟨true, false, true⟩)]

def mannerOf? (letters : List Char) : Option Manner :=
  manners.lookup (String.ofList (letters.map Char.toLower))

/-- What stands before the closing quotes, and what follows them. A character behind a backslash
never closes. -/
def scanBody (quote : Char) (triple : Bool) : List Char → Option (List Char × List Char)
  | [] => none
  | '\\' :: c :: cs => (scanBody quote triple cs).map fun r => ('\\' :: c :: r.1, r.2)
  | c :: cs =>
    let more := fun (_ : Unit) => (scanBody quote triple cs).map fun r => (c :: r.1, r.2)
    if c = quote then
      if !triple then some ([], cs)
      else match cs with
        | a :: b :: rest => if a = quote ∧ b = quote then some ([], rest) else more ()
        | _ => none
    else if c = '\n' ∧ !triple then none
    else more ()

def simpleEscapes : List (Char × Char) :=
  [('\\', '\\'), ('\x27', '\x27'), ('\x22', '\x22'), ('a', '\x07'), ('b', '\x08'), ('f', '\x0c'),
    ('n', '\n'), ('r', '\r'), ('t', '\t'), ('v', '\x0b')]

def isOctal (c : Char) : Bool := decide ('0' ≤ c ∧ c ≤ '7')

/-- How many hexadecimal digits an escape takes; the longer ones are for text only. -/
def escapeWidth? (bytes : Bool) : Char → Option Nat
  | 'x' => some 2
  | 'u' => if bytes then none else some 4
  | 'U' => if bytes then none else some 8
  | _ => none

/-- What an escape stands for, given what follows its backslash, and how many characters it is
written with. A character that is not escaped keeps its backslash. -/
def escaped? (bytes : Bool) : List Char → Option (List Char × Nat)
  | [] => some (['\\'], 0)
  | '\n' :: _ => some ([], 1)
  | c :: cs =>
    match simpleEscapes.lookup c, escapeWidth? bytes c with
    | some e, _ => some ([e], 1)
    | none, some n =>
      if (cs.take n).length = n then
        (Text.codePoint? (cs.take n)).map fun e => ([e], n + 1)
      else none
    | none, none =>
      if isOctal c then
        let digits := (c :: cs).takeWhile isOctal |>.take 3
        let n := digits.foldl (fun n d => n * 8 + (d.toNat - '0'.toNat)) 0
        some ([Char.ofNat (if bytes then n % 256 else n)], digits.length)
      else if c = 'N' ∧ !bytes then none
      else some (['\\', c], 1)

/-- The text that a body stands for. `skip` counts the characters of an escape that are still to be
passed over. -/
def unescape (bytes : Bool) : List Char → Nat → Option (List Char)
  | [], _ => some []
  | _ :: cs, skip + 1 => unescape bytes cs skip
  | c :: cs, 0 =>
    if c = '\\' then do
      let (e, n) ← escaped? bytes cs
      (unescape bytes cs n).map (e ++ ·)
    else (unescape bytes cs 0).map (c :: ·)

/-- A text to be filled in without its doubled braces; none where a brace stands alone. -/
def withoutBraces : List Char → Option (List Char)
  | [] => some []
  | c :: cs =>
    if c = '\x7b' ∨ c = '\x7d' then
      match cs with
      | d :: rest => if d = c then (withoutBraces rest).map (c :: ·) else none
      | [] => none
    else (withoutBraces cs).map (c :: ·)

def Manner.value? (m : Manner) (body : List Char) : Option Value := do
  let body ← if m.filled then withoutBraces body else some body
  if m.bytes && body.any (fun c => decide (0x80 ≤ c.toNat)) then none
  else
    let text ← if m.raw then some body else unescape m.bytes body 0
    if m.bytes then some (.bytes (text.map fun c => UInt8.ofNat c.toNat))
    else some (.text (String.ofList text))

/-- The text whose opening quote stands at the front. -/
def literal (m : Manner) (cs : List Char) : Option (Value × List Char) := do
  let (body, rest) ← match cs with
    | q :: r :: s :: rest =>
      if r = q ∧ s = q then scanBody q true rest else scanBody q false (r :: s :: rest)
    | q :: rest => scanBody q false rest
    | [] => none
  (m.value? body).map fun v => (v, rest)

end RecordSchema.Expression
