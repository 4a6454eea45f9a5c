/-!
# Points in time

A point in time is kept as its date and time of day in UTC. How points in time are written as text
and read from it is not for this library to say: it takes a `TimeFormat` as given, and what it
relies on is `TimeFormat.Faithful`.
-/

namespace NicKeeper

def isLeapYear (year : Int) : Bool :=
  year % 4 == 0 && (year % 100 != 0 || year % 400 == 0)

def daysInMonth (year : Int) (month : Nat) : Nat :=
  if month == 2 then if isLeapYear year then 29 else 28
  else if month == 4 || month == 6 || month == 9 || month == 11 then 30
  else 31

/-- Whether the calendar has this day, within the years that can be told. -/
def IsDate (year : Int) (month day : Nat) : Prop :=
  (-262143 ≤ year ∧ year ≤ 262142) ∧ (1 ≤ month ∧ month ≤ 12) ∧
    1 ≤ day ∧ day ≤ daysInMonth year month

/-- Whether a day has this time. Any second can be followed by a leap second, which is told by
another thousand million nanoseconds. -/
def IsTimeOfDay (hour minute second nanos : Nat) : Prop :=
  hour < 24 ∧ minute < 60 ∧ second < 60 ∧ nanos < 2000000000

instance (year : Int) (month day : Nat) : Decidable (IsDate year month day) :=
  inferInstanceAs (Decidable (_ ∧ _))

instance (hour minute second nanos : Nat) : Decidable (IsTimeOfDay hour minute second nanos) :=
  inferInstanceAs (Decidable (_ ∧ _))

structure Timestamp where
  year : Int
  month : Nat
  day : Nat
  hour : Nat
  minute : Nat
  second : Nat
  nanos : Nat
  isDate : IsDate year month day
  isTimeOfDay : IsTimeOfDay hour minute second nanos
  deriving DecidableEq, Repr

namespace Timestamp

def epoch : Timestamp := ⟨1970, 1, 1, 0, 0, 0, 0, by decide, by decide⟩

instance : Inhabited Timestamp := ⟨epoch⟩

def make? (year : Int) (month day hour minute second nanos : Nat) : Option Timestamp :=
  if date : IsDate year month day then
    if time : IsTimeOfDay hour minute second nanos then
      some ⟨year, month, day, hour, minute, second, nanos, date, time⟩
    else none
  else none

/-- A point in time without a leap second, or with one at the end of a minute. -/
def IsUsual (t : Timestamp) : Prop := 1000000000 ≤ t.nanos → t.second = 59

end Timestamp

/-- How points in time are written as text, and read from it. -/
class TimeFormat where
  text : Timestamp → String
  read? : String → Option Timestamp

namespace TimeFormat

variable [TimeFormat]

/-- What is written of a point in time is read as this point. -/
def Keeps (t : Timestamp) : Prop := read? (text t) = some t

/-- What is written can be read, and usual points in time are kept. A leap second in the middle of a
minute need not be: it can be written like the second that comes after it. It is never read. -/
structure Faithful : Prop where
  legible (t : Timestamp) : ∃ found, read? (text t) = some found
  keeps {t : Timestamp} : t.IsUsual → Keeps t
  isUsual {written : String} {t : Timestamp} : read? written = some t → t.IsUsual

end TimeFormat

end NicKeeper
