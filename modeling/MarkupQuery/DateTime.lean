import MarkupQuery.Calendar
import MarkupQuery.Text

/-!
Moments with the offset in which they were written, and the fields from which one is put together.
A leap second is the second before it with a thousand million nanoseconds or more.
-/
namespace MarkupQuery

/-- Seconds since the start of 1970 in UTC, nanoseconds after them, and the offset east of UTC in
seconds. -/
structure DateTime where
  seconds : Int
  nanos : Nat
  offset : Int
  deriving DecidableEq, Repr

namespace DateTime

/-- A moment in UTC, where the calendar reaches it. -/
def ofSeconds? (seconds : Int) (nanos : Nat) (offset : Int) : Option DateTime :=
  if Calendar.firstSecond ≤ seconds ∧ seconds ≤ Calendar.lastSecond then
    some ⟨seconds, nanos, offset⟩
  else none

/-- The start of a day in UTC. -/
def startOfDay? (day : Int) : Option DateTime := ofSeconds? (day * Calendar.secondsPerDay) 0 0

/-- The number of the day in UTC. -/
def day (d : DateTime) : Int := d.seconds / Calendar.secondsPerDay

/-- What a written date and time says. Minutes, seconds and their parts are zero unless they are
written. -/
structure Fields where
  year : Int
  month : Nat
  day : Nat
  hour : Nat
  minute : Nat
  second : Nat
  nanos : Nat
  offset : Option Int
  weekday : Option Nat
  deriving DecidableEq, Repr

namespace Fields

def blank : Fields := ⟨0, 0, 0, 0, 0, 0, 0, none, none⟩

/-- The number of the day that the fields name; a weekday has to agree with it. -/
def dayNumber? (f : Fields) : Option Int :=
  match Calendar.dayNumber? f.year f.month f.day with
  | none => none
  | some day => if f.weekday.all (· == Calendar.weekday day) then some day else none

/-- Seconds and nanoseconds since midnight; the sixty-first second of a minute is a leap second. -/
def timeOfDay? (f : Fields) : Option (Nat × Nat) :=
  if f.hour ≤ 23 ∧ f.minute ≤ 59 ∧ f.second ≤ 60 then
    let minutes := f.hour * 60 + f.minute
    if f.second == 60 then some (minutes * 60 + 59, 1000000000 + f.nanos)
    else some (minutes * 60 + f.second, f.nanos)
  else none

/-- The moment that the fields name, in UTC unless an offset of less than a day is written. -/
def toDateTime? (f : Fields) : Option DateTime :=
  match f.dayNumber?, f.timeOfDay? with
  | some day, some (second, nanos) =>
    let offset := f.offset.getD 0
    if offset.natAbs < 86400 then
      ofSeconds? (day * Calendar.secondsPerDay + second - offset) nanos offset
    else none
  | _, _ => none

end Fields

end DateTime

end MarkupQuery
