/-! # Letter case

Field names and option values are compared and converted over the ASCII letters; only `upperName`
also folds the two letters outside ASCII whose capitals are ASCII letters.
-/
namespace RecordSchema.Text

def lower (s : String) : String := String.ofList (s.toList.map Char.toLower)

/-- The capital of a letter, for comparison with names in ASCII capitals. -/
def capital (c : Char) : Char :=
  if c = '\u0131' then 'I' else if c = '\u017f' then 'S' else c.toUpper

def upperName (cs : List Char) : List Char := cs.map capital

end RecordSchema.Text
