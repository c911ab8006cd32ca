/-!
The proleptic Gregorian calendar. Days are counted from the first day of 1970, years are
astronomical: there is a year zero, and years before it are negative.
-/
namespace MarkupQuery.Calendar

def isLeap (year : Int) : Bool := year % 4 == 0 && (year % 100 != 0 || year % 400 == 0)

/-- The number of days in a month, zero where there is no such month. -/
def daysInMonth (year : Int) (month : Nat) : Nat :=
  match month with
  | 2 => if isLeap year then 29 else 28
  | 4 | 6 | 9 | 11 => 30
  | 1 | 3 | 5 | 7 | 8 | 10 | 12 => 31
  | _ => 0

/-- The number of days before the first of January, counted from that of 1970. -/
def daysBeforeYear (year : Int) : Int :=
  let past := year - 1
  365 * past + past / 4 - past / 100 + past / 400 - 719162

/-- The number of days of the year before a month. -/
def daysBeforeMonth (year : Int) (month : Nat) : Nat :=
  (List.range (month - 1)).foldl (fun days m => days + daysInMonth year (m + 1)) 0

def firstYear : Int := -262143

def lastYear : Int := 262142

/-- The number of a day, where the calendar has it. -/
def dayNumber? (year : Int) (month day : Nat) : Option Int :=
  if firstYear ≤ year ∧ year ≤ lastYear ∧ 1 ≤ day ∧ day ≤ daysInMonth year month then
    some (daysBeforeYear year + daysBeforeMonth year month + (day - 1))
  else none

/-- The day of the week, zero for Monday. -/
def weekday (day : Int) : Nat := ((day + 3) % 7).toNat

def secondsPerDay : Int := 86400

/-- The first second of the calendar, counted from the start of 1970. -/
def firstSecond : Int := daysBeforeYear firstYear * secondsPerDay

/-- The last second of the calendar. -/
def lastSecond : Int := daysBeforeYear (lastYear + 1) * secondsPerDay - 1

end MarkupQuery.Calendar
