/-!
This module contains the proleptic Gregorian calendar: the number of the day that a date names, and back.
Days are counted from 1 January 1970.
-/

namespace StatusTimeline

structure Date where
  year : Int
  month : Nat
  day : Nat
deriving DecidableEq, Repr

namespace Date

def isLeapYear (year : Int) : Bool :=
  year % 4 == 0 && (year % 100 != 0 || year % 400 == 0)

def daysInMonth (year : Int) : Nat → Nat
  | 2 => if isLeapYear year then 29 else 28
  | 4 => 30
  | 6 => 30
  | 9 => 30
  | 11 => 30
  | _ => 31

def firstYear : Int := -262143

def lastYear : Int := 262142

def isValid (d : Date) : Bool :=
  firstYear ≤ d.year && d.year ≤ lastYear && 1 ≤ d.month && d.month ≤ 12 &&
    1 ≤ d.day && d.day ≤ daysInMonth d.year d.month

/--
The number of the day. The year is taken to begin in March, so that the leap day ends it, and the years
are grouped into spans of four hundred, which all have the same number of days.
-/
def toDay (d : Date) : Int :=
  let year := if d.month ≤ 2 then d.year - 1 else d.year
  let group := year / 400
  let yearOfGroup := year % 400
  let month : Int := if d.month ≤ 2 then d.month + 9 else d.month - 3
  let dayOfYear := (153 * month + 2) / 5 + d.day - 1
  let dayOfGroup := yearOfGroup * 365 + yearOfGroup / 4 - yearOfGroup / 100 + dayOfYear
  group * 146097 + dayOfGroup - 719468

def ofDay (day : Int) : Date :=
  let shifted := day + 719468
  let group := shifted / 146097
  let dayOfGroup := shifted % 146097
  let yearOfGroup :=
    (dayOfGroup - dayOfGroup / 1460 + dayOfGroup / 36524 - dayOfGroup / 146096) / 365
  let dayOfYear := dayOfGroup - (365 * yearOfGroup + yearOfGroup / 4 - yearOfGroup / 100)
  let month := (5 * dayOfYear + 2) / 153
  let monthOfYear := if month < 10 then month + 3 else month - 9
  let year := yearOfGroup + group * 400
  { year := if monthOfYear ≤ 2 then year + 1 else year
    month := monthOfYear.toNat
    day := (dayOfYear - (153 * month + 2) / 5 + 1).toNat }

def firstDay : Int := -96465292

def lastDay : Int := 95026236

end Date

end StatusTimeline
