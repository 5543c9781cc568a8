/-! # Words of a name

A name is cut into words at every character that is no ASCII letter or digit and at changes of
case. Capitals that open a run of letters and digits form one word, except that the last of them
begins the next word when a lower-case letter follows; inside a run every capital begins a word.
`lowerCamel` writes the words without separators, each but the first with a capital.
-/
namespace RecordSchema.Name

def isCapital (c : Char) : Bool := c.isUpper

def isSmall (c : Char) : Bool := c.isLower || c.isDigit

/-- How many of the capitals that open a run form its first word. -/
def openingCapitals (cs : List Char) : Nat :=
  let capitals := (cs.takeWhile isCapital).length
  match cs.dropWhile isCapital with
  | c :: _ => if c.isLower then capitals - 1 else capitals
  | [] => capitals

/-- The words of a text; `inside` tells whether a letter or digit stands before it. -/
def scan (inside : Bool) (text : List Char) : List (List Char) :=
  match text with
  | [] => []
  | c :: cs =>
    if isCapital c then
      let n := openingCapitals (c :: cs)
      if inside ∨ n = 0 then
        (c :: cs.takeWhile isSmall) :: scan true (cs.dropWhile isSmall)
      else (c :: cs.take (n - 1)) :: scan true (cs.drop (n - 1))
    else if isSmall c then
      (c :: cs.takeWhile isSmall) :: scan true (cs.dropWhile isSmall)
    else scan false cs
termination_by text.length
decreasing_by
  all_goals simp only [List.length_cons, List.length_drop]
  all_goals first
    | omega
    | exact Nat.lt_succ_of_le (List.dropWhile_sublist _).length_le

def words (name : String) : List String := (scan false name.toList).map String.ofList

/-- A word with its first letter as a capital and the others small. -/
def capitalize : List Char → List Char
  | [] => []
  | c :: cs => c.toUpper :: cs.map Char.toLower

def camelChars : List (List Char) → List Char
  | [] => []
  | head :: tail => head.map Char.toLower ++ tail.flatMap capitalize

/-- The name in lower camel case. -/
def lowerCamel (name : String) : String := String.ofList (camelChars (scan false name.toList))

end RecordSchema.Name
