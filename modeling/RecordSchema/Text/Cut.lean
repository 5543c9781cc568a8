/-! # Cutting and joining text

Splitting at a character or at a given text, from either side, and joining the pieces again.
-/
namespace RecordSchema.Text

/-- The pieces between the places where `p` holds; always one more than there are places. -/
def splitBy (p : Char → Bool) : List Char → List (List Char)
  | [] => [[]]
  | c :: cs =>
    if p c then [] :: splitBy p cs
    else match splitBy p cs with
      | [] => [[c]]
      | piece :: pieces => (c :: piece) :: pieces

def splitAtChar (sep : Char) (s : String) : List String :=
  (splitBy (· == sep) s.toList).map String.ofList

/-- The parts before and after the first `sep`; none where `sep` does not occur. -/
def cutFirst? (sep : Char) (s : String) : Option (String × String) :=
  let cs := s.toList
  match cs.dropWhile (· != sep) with
  | [] => none
  | _ :: rest => some (String.ofList (cs.takeWhile (· != sep)), String.ofList rest)

/-- The parts before and after the last `sep`. -/
def cutLast? (sep : Char) (s : String) : Option (String × String) :=
  let cs := s.toList.reverse
  match cs.dropWhile (· != sep) with
  | [] => none
  | _ :: rest => some (String.ofList rest.reverse, String.ofList (cs.takeWhile (· != sep)).reverse)

/-- The rest of a text that begins with `front`. -/
def dropFront? : List Char → List Char → Option (List Char)
  | [], cs => some cs
  | _ :: _, [] => none
  | f :: fs, c :: cs => if f = c then dropFront? fs cs else none

/-- Every occurrence of `old`, read from the left without overlap, becomes `new`. -/
def replaceAll (old new : List Char) (cs : List Char) : List Char :=
  go cs 0
where
  /-- `skip` counts the characters of an occurrence that are still to be passed over. -/
  go : List Char → Nat → List Char
    | [], _ => []
    | _ :: rest, skip + 1 => go rest skip
    | c :: rest, 0 =>
      if old ≠ [] ∧ old.isPrefixOf (c :: rest) then new ++ go rest (old.length - 1)
      else c :: go rest 0

def replace (old new s : String) : String :=
  String.ofList (replaceAll old.toList new.toList s.toList)

/-- The names as an English list in which the last two are joined by `and`. -/
def listing : List String → String
  | [] => ""
  | [a] => a
  | [a, b] => a ++ " and " ++ b
  | names => String.intercalate ", " names.dropLast ++ ", and " ++ names.getLastD ""

/-- Line ends of every convention become line feeds. -/
def unifyNewlines : List Char → List Char
  | [] => []
  | '\r' :: '\n' :: cs => '\n' :: unifyNewlines cs
  | '\r' :: cs => '\n' :: unifyNewlines cs
  | c :: cs => c :: unifyNewlines cs

end RecordSchema.Text
