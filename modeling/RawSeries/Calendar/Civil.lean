/-!
The Gregorian calendar, carried back before its introduction. Days are counted from 1 March of the
year zero, so that the leap day ends a year.
-/

namespace RawSeries.Calendar

/-- A date by year, month and day of the month. -/
structure Date where
  year : Nat
  month : Nat
  day : Nat
deriving DecidableEq

/-- Every fourth year, except the centuries that 400 does not divide. -/
def isLeap (year : Nat) : Bool :=
  year % 4 == 0 && (year % 100 != 0 || year % 400 == 0)

def monthLength (year month : Nat) : Nat :=
  if month = 2 then if isLeap year then 29 else 28
  else if month = 4 ∨ month = 6 ∨ month = 9 ∨ month = 11 then 30
  else 31

/-- A day that the calendar has, from the year 1 to the year 9999. -/
def Date.isValid (d : Date) : Bool :=
  1 ≤ d.year && d.year ≤ 9999 && 1 ≤ d.month && d.month ≤ 12 && 1 ≤ d.day &&
    d.day ≤ monthLength d.year d.month

/-- The days of the months from March to the one before month `m` of a year that starts in March. -/
def daysBeforeMonth (m : Nat) : Nat :=
  (153 * m + 2) / 5

/-- The number of days from 1 March of the year zero. -/
def Date.dayNumber (d : Date) : Nat :=
  let m := (d.month + 9) % 12
  let y := if d.month ≤ 2 then d.year - 1 else d.year
  365 * y + y / 4 - y / 100 + y / 400 + daysBeforeMonth m + (d.day - 1)

def Date.ofDayNumber (n : Nat) : Date :=
  let era := n / 146097
  let dayOfEra := n % 146097
  let yearOfEra :=
    (dayOfEra - dayOfEra / 1460 + dayOfEra / 36524 - dayOfEra / 146096) / 365
  let dayOfYear := dayOfEra - (365 * yearOfEra + yearOfEra / 4 - yearOfEra / 100)
  let m := (5 * dayOfYear + 2) / 153
  let month := if m < 10 then m + 3 else m - 9
  let year := yearOfEra + 400 * era
  ⟨if month ≤ 2 then year + 1 else year, month, dayOfYear - daysBeforeMonth m + 1⟩

def epochDay : Nat := 719468

/-- The day of the week, counted from Monday. -/
def weekday (dayNumber : Nat) : Nat :=
  (dayNumber + 2) % 7

/-- A date and a time of the day. -/
structure Moment where
  date : Date
  hour : Nat
  minute : Nat
  second : Nat
deriving DecidableEq

/-- The seconds from the start of 1 January 1970. -/
def Moment.toSeconds (t : Moment) : Int :=
  ((t.date.dayNumber : Int) - epochDay) * 86400 + (t.hour * 3600 + t.minute * 60 + t.second : Nat)

/-- The moment a number of seconds after the start of 1 March of the year zero. -/
def Moment.ofCount (n : Nat) : Moment :=
  let rest := n % 86400
  ⟨Date.ofDayNumber (n / 86400), rest / 3600, rest / 60 % 60, rest % 60⟩

/-- The moment a number of seconds after the start of 1 January 1970, for years from zero on. -/
def Moment.ofSeconds (seconds : Int) : Moment :=
  Moment.ofCount (seconds + (epochDay : Int) * 86400).toNat

/-- The first second of 2 January of the year 1: nothing earlier is a moment of the calendar. -/
def firstSecond : Int := -62135510400

def lastSecond : Int := 253402300799

end RawSeries.Calendar
