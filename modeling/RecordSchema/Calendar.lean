/-! # Dates and clock times

Days of the civil calendar, times of day to the microsecond and offsets from universal time.
-/
namespace RecordSchema

structure Date where
  year : Nat
  month : Nat
  day : Nat
deriving DecidableEq, Repr

structure ClockTime where
  hour : Nat
  minute : Nat
  second : Nat
  microsecond : Nat
deriving DecidableEq, Repr

/-- An offset in seconds, with the name it was written under. -/
structure Zone where
  seconds : Int
  name : String
deriving DecidableEq, Repr

def isLeapYear (year : Nat) : Bool :=
  year % 4 == 0 && (year % 100 != 0 || year % 400 == 0)

def daysInMonth (year month : Nat) : Nat :=
  if month = 2 then (if isLeapYear year then 29 else 28)
  else if month = 4 ∨ month = 6 ∨ month = 9 ∨ month = 11 then 30
  else 31

def Date.isValid (d : Date) : Bool :=
  decide (1 ≤ d.year ∧ d.year ≤ 9999) && decide (1 ≤ d.month ∧ d.month ≤ 12) &&
    decide (1 ≤ d.day ∧ d.day ≤ daysInMonth d.year d.month)

def ClockTime.isValid (t : ClockTime) : Bool :=
  decide (t.hour < 24 ∧ t.minute < 60 ∧ t.second < 60 ∧ t.microsecond < 1000000)

/-- A span of time as whole days, seconds below a day and microseconds below a second. -/
structure DaySpan where
  days : Int
  seconds : Int
  microseconds : Int
deriving DecidableEq, Repr

def microsecondsPerSecond : Int := 1000000

def secondsPerDay : Int := 86400

def DaySpan.ofMicroseconds (total : Int) : DaySpan :=
  let seconds := Int.fdiv total microsecondsPerSecond
  ⟨Int.fdiv seconds secondsPerDay, Int.fmod seconds secondsPerDay,
    Int.fmod total microsecondsPerSecond⟩

def DaySpan.toMicroseconds (s : DaySpan) : Int :=
  (s.days * secondsPerDay + s.seconds) * microsecondsPerSecond + s.microseconds

end RecordSchema
