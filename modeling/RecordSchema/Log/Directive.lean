import RecordSchema.Decimal.Places
import RecordSchema.Value

/-! # Directives

A directive of a template turns one value into text: it has flags, a least width, a precision and a
conversion. Numbers take a sign and leading zeros; text is cut at the precision.
-/
namespace RecordSchema.Log

/-- What is wrong with a template or with a value that it is filled with. -/
inductive TemplateError where
  | tooFew
  | tooMany
  | needsTable
  | unknownKey (key : String)
  | unfinishedKey
  | unfinished
  | unknownDirective (c : Char) (position : Nat)
  | widthNotWhole
  /-- A width or a precision in the template that is out of range, by its name. -/
  | tooBig (part : String)
  /-- A width or a precision among the values that is out of range, by the type it has to fit. -/
  | doesNotFit (type : String)
  | notANumber (conversion : Char) (typeName : String)
  | notWhole (conversion : Char) (typeName : String)
  | notReal (typeName : String)
  | noWholeNumber (infinite : Bool)
  | tooLarge
  | notACharacter
  | noSuchCharacter
  | unwritten (e : WriteError)
deriving DecidableEq, Repr

/-- A character that a message can show as it is, a question mark for any other. -/
def shownDirective (c : Char) : Char := if 31 ≤ c.toNat ∧ c.toNat ≤ 126 then c else '?'

def TemplateError.message : TemplateError → String
  | .tooFew => "not enough arguments for format string"
  | .tooMany => "not all arguments converted during string formatting"
  | .needsTable => "format requires a mapping"
  | .unknownKey key => Text.quoted key
  | .unfinishedKey => "incomplete format key"
  | .unfinished => "incomplete format"
  | .unknownDirective c position =>
    "unsupported format character '" ++ String.singleton (shownDirective c) ++ "' (0x" ++
      String.ofList (Nat.toDigits 16 c.toNat) ++ ") at index " ++ toString position
  | .widthNotWhole => "* wants int"
  | .tooBig part => part ++ " too big"
  | .doesNotFit type => "Python int too large to convert to C " ++ type
  | .notANumber c name =>
    "%" ++ String.singleton c ++ " format: a real number is required, not " ++ name
  | .notWhole c name =>
    "%" ++ String.singleton c ++ " format: an integer is required, not " ++ name
  | .notReal name => "must be real number, not " ++ name
  | .noWholeNumber true => "cannot convert float infinity to integer"
  | .noWholeNumber false => "cannot convert float NaN to integer"
  | .tooLarge => "int too large to convert to float"
  | .notACharacter => "%c requires int or char"
  | .noSuchCharacter => "%c arg not in range(0x110000)"
  | .unwritten e => e.message

structure Flags where
  left : Bool := false
  plus : Bool := false
  blank : Bool := false
  marked : Bool := false
  zero : Bool := false
deriving DecidableEq, Repr

def Flags.add? (f : Flags) : Char → Option Flags
  | '-' => some { f with left := true }
  | '+' => some { f with plus := true }
  | ' ' => some { f with blank := true }
  | '#' => some { f with marked := true }
  | '0' => some { f with zero := true }
  | _ => none

structure Directive where
  flags : Flags := {}
  width : Nat := 0
  precision : Option Nat := none
  conversion : Char
deriving DecidableEq, Repr

/-- A number without its fraction. -/
def truncated (negative : Bool) (m : Nat) (e : Int) : Int :=
  let p := Decimal.power 2 e
  let n := m * p.1 / p.2
  if negative then -(n : Int) else n

def wholeValue (c : Char) (v : Value) : Except TemplateError Int :=
  match v with
  | .float (.finite negative m e) => .ok (truncated negative m e)
  | .float (.infinite _) => .error (.noWholeNumber true)
  | .float .nan => .error (.noWholeNumber false)
  | v =>
    match v.toInt? with
    | some i => .ok i
    | none => .error (.notANumber c v.typeName)

def exactWhole (c : Char) (v : Value) : Except TemplateError Int :=
  match v.toInt? with
  | some i => .ok i
  | none => .error (.notWhole c v.typeName)

def realValue (v : Value) : Except TemplateError Decimal.Binary64 :=
  match v with
  | .float x => .ok x
  | v =>
    match v.toInt? with
    | some i =>
      match Decimal.ofRatio (decide (i < 0)) i.natAbs 1 with
      | .infinite _ => .error .tooLarge
      | x => .ok x
    | none => .error (.notReal v.typeName)

/-- A number in pieces: its sign, a mark of its base, and its digits. -/
structure Numeral where
  sign : List Char := []
  mark : List Char := []
  digits : List Char
deriving DecidableEq, Repr

def Directive.signOf (d : Directive) (negative : Bool) : List Char :=
  if negative then ['-'] else if d.flags.plus then ['+'] else if d.flags.blank then [' '] else []

/-- A whole number in a base; the precision is the least count of digits. -/
def Directive.whole (d : Directive) (base : Nat) (mark : List Char) (i : Int) : Numeral :=
  let digits := Nat.toDigits base i.natAbs
  { sign := d.signOf (decide (i < 0))
    mark := if d.flags.marked then mark else []
    digits := Decimal.zeroText (d.precision.getD 0 - digits.length) ++ digits }

def Directive.real (d : Directive) (form : Decimal.Form) (x : Decimal.Binary64) : Numeral :=
  match x.inForm form (d.precision.getD 6) d.flags.marked with
  | '-' :: cs => { sign := d.signOf true, digits := cs }
  | cs => { sign := d.signOf false, digits := cs }

def Numeral.upper (n : Numeral) : Numeral :=
  { n with mark := n.mark.map Char.toUpper, digits := n.digits.map Char.toUpper }

/-- A numeral in its width: zeros stand between the sign and the digits, blanks on either side. -/
def Directive.placeNumeral (d : Directive) (n : Numeral) : List Char :=
  let body := n.sign ++ n.mark ++ n.digits
  let spare := d.width - body.length
  if d.flags.left then body ++ List.replicate spare ' '
  else if d.flags.zero then n.sign ++ n.mark ++ Decimal.zeroText spare ++ n.digits
  else List.replicate spare ' ' ++ body

def Directive.placeText (d : Directive) (cs : List Char) : List Char :=
  let spare := List.replicate (d.width - cs.length) ' '
  if d.flags.left then cs ++ spare else spare ++ cs

def Directive.cut (d : Directive) (cs : List Char) : List Char :=
  match d.precision with
  | some n => cs.take n
  | none => cs

/-- A character, or the one with a given code. -/
def characterOf (v : Value) : Except TemplateError Char :=
  match v with
  | .text s =>
    match s.toList with
    | [c] => .ok c
    | _ => .error .notACharacter
  | v =>
    match v.toInt? with
    | none => .error .notACharacter
    | some i =>
      if 0 ≤ i ∧ i < 0x110000 then .ok (Char.ofNat i.toNat) else .error .noSuchCharacter

/-- A value as the directive writes it; `position` is where the conversion stands. -/
def Directive.apply (d : Directive) (position : Nat) (v : Value) :
    Except TemplateError (List Char) :=
  let c := d.conversion
  let text := fun (s : Except WriteError String) =>
    (fun s => d.placeText (d.cut s.toList)) <$> s.mapError .unwritten
  let whole := fun (base : Nat) (mark : List Char) =>
    (fun i => d.placeNumeral (d.whole base mark i)) <$> exactWhole c v
  let real := fun (form : Decimal.Form) => (fun x => d.placeNumeral (d.real form x)) <$> realValue v
  let realUpper := fun (form : Decimal.Form) =>
    (fun x => d.placeNumeral (d.real form x).upper) <$> realValue v
  match c with
  | 's' => text v.toText
  | 'r' => text v.shown
  | 'a' => text (Text.asciiOnly <$> v.shown)
  | 'd' | 'i' | 'u' => do
    let i ← wholeValue c v
    if Text.isTooLong i then .error (.unwritten .tooManyDigits)
    else .ok (d.placeNumeral (d.whole 10 [] i))
  | 'o' => whole 8 ['0', 'o']
  | 'x' => whole 16 ['0', 'x']
  | 'X' => (fun i => d.placeNumeral (d.whole 16 ['0', 'x'] i).upper) <$> exactWhole c v
  | 'e' => real .exponential
  | 'E' => realUpper .exponential
  | 'f' => real .fixed
  | 'F' => realUpper .fixed
  | 'g' => real .general
  | 'G' => realUpper .general
  | 'c' => (fun ch => d.placeText [ch]) <$> characterOf v
  | _ => .error (.unknownDirective c position)

end RecordSchema.Log
