import RecordSchema.Log.Layout

/-! # The log in force

A set-up holds the least level that is shown and the template of the lines. Every set-up replaces
the one before it. What passes is never shown without a level of its own.
-/
namespace RecordSchema.Log

structure Setup where
  level : Int
  template : String
deriving DecidableEq, Repr

/-- Below ordinary information, lines also name the place of the call. -/
def templateFor (level : Int) : String :=
  if info ≤ level then ordinaryTemplate else detailedTemplate

def Setup.atLevel (level : Int) : Setup := ⟨level, templateFor level⟩

/-- The set-up for an explicit level, or else for the level that the setting asks for; a setting
that asks for none or for everything leaves warnings. -/
def Setup.choose (explicit : Option Int) (setting : Option String) : Except LevelError Setup :=
  match explicit with
  | some level => .ok (.atLevel level)
  | none => do
    match ← readLevel setting with
    | some 0 | none => .ok (.atLevel warning)
    | some level => .ok (.atLevel level)

def Setup.shows (s : Setup) (level : Int) : Bool := decide (0 < level) && decide (s.level ≤ level)

/-- What a record puts on the error stream. -/
def Setup.output (s : Setup) (r : Record) : String :=
  if s.shows r.level then
    match line s.template [] r with
    | .ok l => l ++ "\n"
    | .error _ => ""
  else ""

end RecordSchema.Log
