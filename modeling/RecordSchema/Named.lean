/-! # Named entries

Entries under names, in the order in which the names were first mentioned.
-/
namespace RecordSchema

abbrev Named (α : Type) := List (String × α)

namespace Named

variable {α : Type}

/-- A new entry goes to the end; an entry under a known name takes the place of the old one. -/
def put (entries : Named α) (name : String) (a : α) : Named α :=
  match entries with
  | [] => [(name, a)]
  | e :: rest => if e.1 = name then (name, a) :: rest else e :: put rest name a

def putAll (entries more : Named α) : Named α :=
  more.foldl (fun es e => put es e.1 e.2) entries

def ofList (entries : List (String × α)) : Named α := putAll [] entries

end Named

end RecordSchema
