import Rampart.Text.Numeral

/-!
# Calendar time

The fields of a point in time in the Gregorian calendar, with days that begin at midnight in
Greenwich. A point in time is the number of seconds since the start of the year 1970.
-/

namespace Rampart.Calendar

/-- The seconds of a day. -/
def secondsPerDay : Int := 86400

/-- The days since the start of 1970. -/
def dayNumber (seconds : Int) : Int := seconds.fdiv secondsPerDay

/-- The seconds since midnight. -/
def secondOfDay (seconds : Int) : Nat := (seconds.fmod secondsPerDay).toNat

/-- A date. -/
structure Date where
  year : Int
  month : Nat
  day : Nat
  deriving DecidableEq, Repr

/-- The date of a day. Years are taken to begin in March, so that a leap day is the last of its year,
and are counted in cycles of 400 years of 146097 days. -/
def dateOf (dayNumber : Int) : Date :=
  let z := dayNumber + 719468
  let cycle := z.fdiv 146097
  let dayOfCycle := (z.fmod 146097).toNat
  let yearOfCycle :=
    (dayOfCycle - dayOfCycle / 1460 + dayOfCycle / 36524 - dayOfCycle / 146096) / 365
  let dayOfYear := dayOfCycle - (365 * yearOfCycle + yearOfCycle / 4 - yearOfCycle / 100)
  let monthFromMarch := (5 * dayOfYear + 2) / 153
  let day := dayOfYear - (153 * monthFromMarch + 2) / 5 + 1
  let month := if monthFromMarch < 10 then monthFromMarch + 3 else monthFromMarch - 9
  let year := cycle * 400 + yearOfCycle
  ⟨if month ≤ 2 then year + 1 else year, month, day⟩

/-- The day of the week, Sunday being 0. -/
def weekday (dayNumber : Int) : Nat := ((dayNumber + 4).fmod 7).toNat

/-- A number in at least two digits. -/
def twoDigits (n : Nat) : String := if n < 10 then "0" ++ n.repr else n.repr

/-- The fields that a point in time has. -/
inductive Field where
  | time
  | year
  | month
  | day
  | hour
  | minute
  | second
  | weekday
  | epoch
  deriving DecidableEq, Repr

/-- The text of a field of a point in time. -/
def fieldText (seconds : Int) : Field → String
  | .time =>
    let s := secondOfDay seconds
    twoDigits (s / 3600) ++ ":" ++ twoDigits (s / 60 % 60) ++ ":" ++ twoDigits (s % 60)
  | .year => Text.decimal (dateOf (dayNumber seconds)).year
  | .month => twoDigits (dateOf (dayNumber seconds)).month
  | .day => twoDigits (dateOf (dayNumber seconds)).day
  | .hour => twoDigits (secondOfDay seconds / 3600)
  | .minute => twoDigits (secondOfDay seconds / 60 % 60)
  | .second => twoDigits (secondOfDay seconds % 60)
  | .weekday => (Calendar.weekday (dayNumber seconds)).repr
  | .epoch => Text.decimal seconds

end Rampart.Calendar
