import RecordSchema.Terminal.Paint

/-! # Plain text

A control sequence is an escape, an opening bracket, parameters, marks between them and the end,
and one final character. `plain` drops the complete control sequences of a text and keeps everything
else.
-/
namespace RecordSchema.Terminal

/-- Whether a character lies between two others. -/
def isBetween (first last c : Char) : Bool := decide (first ≤ c) && decide (c ≤ last)

def isParameter : Char → Bool := isBetween '0' '?'

def isIntermediate : Char → Bool := isBetween ' ' '/'

def isFinal : Char → Bool := isBetween '@' '~'

/-- How many characters after an escape complete a control sequence. -/
def sequenceTail? : List Char → Option Nat
  | '[' :: cs =>
    let parameters := cs.takeWhile isParameter
    let rest := cs.dropWhile isParameter
    let marks := rest.takeWhile isIntermediate
    match rest.dropWhile isIntermediate with
    | c :: _ => if isFinal c then some (parameters.length + marks.length + 2) else none
    | [] => none
  | _ => none

/-- `skip` counts the characters of a control sequence that are still to be passed over. -/
def plainFrom : List Char → Nat → List Char
  | [], _ => []
  | _ :: cs, skip + 1 => plainFrom cs skip
  | c :: cs, 0 =>
    if c = escape then
      match sequenceTail? cs with
      | some n => plainFrom cs n
      | none => c :: plainFrom cs 0
    else c :: plainFrom cs 0

def plain (s : String) : String := String.ofList (plainFrom s.toList 0)

theorem plainFrom_eq_self {cs : List Char} (h : escape ∉ cs) : plainFrom cs 0 = cs := by
  induction cs with
  | nil => rfl
  | cons c cs ih =>
    have hc : c ≠ escape := fun e => h (by simp [e])
    simp [plainFrom, hc, ih (fun m => h (List.mem_cons_of_mem _ m))]

end RecordSchema.Terminal
