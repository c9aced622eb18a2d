/-!
# Civil dates

Dates and times of the Gregorian calendar, extended to all years, as a count of
seconds from the first instant of year 1.
-/

namespace HttpRetry

structure Civil where
  year : Nat
  month : Nat
  day : Nat
  hour : Nat
  minute : Nat
  second : Nat
deriving DecidableEq

namespace Civil

def isLeap (year : Nat) : Bool :=
  year % 4 = 0 && (year % 100 ≠ 0 || year % 400 = 0)

def daysInMonth (year month : Nat) : Nat :=
  match month with
  | 2 => if isLeap year then 29 else 28
  | 4 | 6 | 9 | 11 => 30
  | _ => 31

def daysBeforeYear (year : Nat) : Nat :=
  let past := year - 1
  365 * past + past / 4 - past / 100 + past / 400

def daysBeforeMonth (year : Nat) : Nat → Nat
  | 0 | 1 => 0
  | month + 1 => daysBeforeMonth year month + daysInMonth year month

/-- Years 1 to 9999 and no leap seconds. -/
def isValid (c : Civil) : Bool :=
  1 ≤ c.year && c.year ≤ 9999 && 1 ≤ c.month && c.month ≤ 12 &&
    1 ≤ c.day && c.day ≤ daysInMonth c.year c.month &&
    c.hour < 24 && c.minute < 60 && c.second < 60

def days (c : Civil) : Nat :=
  daysBeforeYear c.year + daysBeforeMonth c.year c.month + (c.day - 1)

def seconds (c : Civil) : Nat :=
  c.days * 86400 + c.hour * 3600 + c.minute * 60 + c.second

end Civil

structure Moment where
  civil : Civil
  microsecond : Nat

def Moment.micros (m : Moment) : Int :=
  m.civil.seconds * 1000000 + m.microsecond

end HttpRetry
