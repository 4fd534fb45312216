/-!
Dates of the Gregorian calendar from year 1 to 9999, and times of day to the microsecond.
-/

namespace Testbed

structure Date where
  year : Nat
  month : Nat
  day : Nat
  deriving Repr, DecidableEq

/-- A date and a time of day, with an offset from universal time in minutes if it has one. -/
structure Moment where
  date : Date
  hour : Nat
  minute : Nat
  second : Nat
  micro : Nat
  offset : Option Int
  deriving Repr, DecidableEq

namespace Date

def isLeap (year : Nat) : Bool :=
  year % 4 == 0 && (year % 100 != 0 || year % 400 == 0)

def daysIn (year month : Nat) : Nat :=
  if month = 2 then (if isLeap year then 29 else 28)
  else if month = 4 ∨ month = 6 ∨ month = 9 ∨ month = 11 then 30
  else 31

/-- A date, if the calendar has it. -/
def ofParts? (year month day : Nat) : Option Date :=
  if 1 ≤ year ∧ year ≤ 9999 ∧ 1 ≤ month ∧ month ≤ 12 ∧ 1 ≤ day ∧ day ≤ daysIn year month then
    some ⟨year, month, day⟩
  else none

/-- The number of days from the first day of year 1. -/
def ordinal (d : Date) : Nat :=
  let before := d.year - 1
  before * 365 + before / 4 - before / 100 + before / 400
    + (List.range (d.month - 1)).foldl (fun n m => n + daysIn d.year (m + 1)) 0 + (d.day - 1)

end Date

/-- A number with at least the given count of digits. -/
def padded (width n : Nat) : String :=
  let digits := (toString n).toList
  String.ofList (List.replicate (width - digits.length) '0' ++ digits)

def Date.text (d : Date) : String :=
  padded 4 d.year ++ "-" ++ padded 2 d.month ++ "-" ++ padded 2 d.day

namespace Moment

/-- A moment, if the day has this time and the offset is less than a day. -/
def ofParts? (date : Date) (hour minute second micro : Nat) (offset : Option Int) :
    Option Moment :=
  if hour < 24 ∧ minute < 60 ∧ second < 60 ∧ micro < 1000000
      ∧ (offset.all fun o => decide (-1440 < o ∧ o < 1440)) then
    some ⟨date, hour, minute, second, micro, offset⟩
  else none

/-- The offset with its sign, in hours and minutes. -/
def offsetText (offset : Int) : String :=
  (if offset < 0 then "-" else "+") ++ padded 2 (offset.natAbs / 60) ++ ":"
    ++ padded 2 (offset.natAbs % 60)

/-- Date and time with a separator; a fraction only when it is not zero, to six digits. -/
def text (separator : String) (m : Moment) : String :=
  m.date.text ++ separator ++ padded 2 m.hour ++ ":" ++ padded 2 m.minute ++ ":"
    ++ padded 2 m.second ++ (if m.micro = 0 then "" else "." ++ padded 6 m.micro)
    ++ (match m.offset with | none => "" | some o => offsetText o)

/-- Microseconds from the start of year 1, in universal time when the offset is known. -/
def instant (m : Moment) : Int :=
  let minutes : Int :=
    ((m.date.ordinal * 24 + m.hour) * 60 + m.minute : Nat) - m.offset.getD 0
  (minutes * 60 + m.second) * 1000000 + m.micro

end Moment

end Testbed
