import RecordSchema.Log.Record
import RecordSchema.Log.Level
import RecordSchema.Terminal.Paint

/-! # Notices

A notice is a remark that accompanies a result without making it fail. Notices are collected in
order; every one that is added is traced in the log.
-/
namespace RecordSchema

inductive Severity where
  | info
  | warning
  | error
deriving DecidableEq, Repr

namespace Severity

/-- All severities, mildest first. -/
def all : List Severity := [info, warning, error]

def name : Severity → String
  | info => "info"
  | warning => "warning"
  | error => "error"

def ofName? (s : String) : Option Severity := all.find? fun l => l.name == s

def paint : Severity → Terminal.Paint
  | info => Terminal.blue
  | warning => Terminal.yellow
  | error => Terminal.brightRed

theorem mem_all (l : Severity) : l ∈ all := by cases l <;> simp [all]

end Severity

structure Notice where
  level : Severity
  message : String
deriving DecidableEq, Repr

namespace Notice

variable {ε : Type}

def warning (message : String) : Notice := ⟨.warning, message⟩

/-- How many notices have a given severity. -/
def count (l : Severity) (ns : List Notice) : Nat := ns.countP fun n => n.level == l

def hasWarning (ns : List Notice) : Bool := ns.any fun n => n.level == .warning

/-- The severities that occur, mildest first. -/
def present (ns : List Notice) : List Severity :=
  Severity.all.filter fun l => decide (count l ns ≠ 0)

def addedMessage (n : Notice) : String :=
  "Adding [" ++ n.level.name ++ "]: " ++ Text.quoted n.message

def add (ns : List Notice) (n : Notice) : Logged ε (List Notice) := do
  Logged.write Log.trace n.addedMessage
  return ns ++ [n]

def addAll (ns : List Notice) : List Notice → Logged ε (List Notice)
  | [] => return ns
  | n :: more => do addAll (← add ns n) more

theorem add_result (ns : List Notice) (n : Notice) :
    (add ns n : Logged ε (List Notice)).result = .ok (ns ++ [n]) := rfl

theorem addAll_result (ns more : List Notice) :
    (addAll ns more : Logged ε (List Notice)).result = .ok (ns ++ more) := by
  induction more generalizing ns with
  | nil => simp [addAll]
  | cons n more ih =>
    rw [addAll, Logged.result_bind, add_result, ok_bind, ih, List.append_assoc]
    rfl

theorem count_append (l : Severity) (ms ns : List Notice) :
    count l (ms ++ ns) = count l ms + count l ns := by
  simp [count]

end Notice

end RecordSchema
