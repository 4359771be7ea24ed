/-!
# Dates and moments

A date is a day of the Gregorian calendar, a moment a time of day on a date, with or without its distance
from Greenwich. `Date.flaw?` and `Moment.flaw?` say what is out of range in one.
-/

set_option autoImplicit false

namespace StyleBuild

structure Date where
  year : Nat
  month : Nat
  day : Nat
  deriving DecidableEq, Repr

namespace Date

def isLeap (year : Nat) : Bool := year % 4 == 0 && (year % 100 != 0 || year % 400 == 0)

def daysIn (year month : Nat) : Nat :=
  if month = 2 then (if isLeap year then 29 else 28)
  else if month = 4 ∨ month = 6 ∨ month = 9 ∨ month = 11 then 30
  else 31

def flaw? (d : Date) : Option String :=
  if d.year = 0 then some "year 0 is out of range"
  else if d.month = 0 ∨ 12 < d.month then some "month must be in 1..12"
  else if d.day = 0 ∨ daysIn d.year d.month < d.day then some "day is out of range for month"
  else none

def daysBeforeYear (year : Nat) : Nat :=
  let y := year - 1
  y * 365 + y / 4 - y / 100 + y / 400

/-- The number of a day, from the first of January of the year one on. -/
def number (d : Date) : Nat :=
  (List.range (d.month - 1)).foldl (fun n m => n + daysIn d.year (m + 1)) (daysBeforeYear d.year)
    + d.day

end Date

structure Moment where
  date : Date
  hour : Nat
  minute : Nat
  second : Nat
  micro : Nat := 0
  /-- Seconds east of Greenwich. -/
  offset : Option Int := none
  deriving DecidableEq, Repr

namespace Moment

def flaw? (m : Moment) : Option String :=
  m.date.flaw?.or
    (if 23 < m.hour then some "hour must be in 0..23"
    else if 59 < m.minute then some "minute must be in 0..59"
    else if 59 < m.second then some "second must be in 0..59"
    else none)

/-- Microseconds since the first of January of the year one, at Greenwich if the offset is known. -/
def instant (m : Moment) : Int :=
  let seconds : Int := (((m.date.number * 24 + m.hour) * 60 + m.minute) * 60 + m.second : Nat)
  (seconds - m.offset.getD 0) * 1000000 + m.micro

/-- Whether two moments are the same point in time; one with and one without an offset never are. -/
def same (a b : Moment) : Bool := a.offset.isSome == b.offset.isSome && a.instant == b.instant

end Moment

end StyleBuild
