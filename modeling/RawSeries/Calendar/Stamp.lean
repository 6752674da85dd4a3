import RawSeries.Calendar.Civil
import RawSeries.Decimal.Rounding
import RawSeries.Text.Numeral

namespace RawSeries.Calendar

/-- Why a timestamp has no date, from the mildest reason to the hardest. -/
inductive Flaw where
  /-- The year is not one of the calendar. -/
  | year
  /-- The year does not fit 32 bits. -/
  | longYear
  /-- The seconds are not between -2^63 and 2^63. -/
  | seconds
deriving DecidableEq

/-- A timestamp is in milliseconds when it has any of the bits 32 to 63, in two's complement. -/
def isMillis (timestamp : Int) : Bool :=
  timestamp / 4294967296 % 4294967296 != 0

def floor? (x : Decimal.Binary) : Option Int :=
  match x with
  | .finite negative ⟨m, e⟩ =>
      let n : Int := if negative then -(m : Int) else m
      some (if 0 ≤ e then n * Nat.pow 2 e.toNat else n / Nat.pow 2 (-e).toNat)
  | _ => none

/-- The seconds of a timestamp. Milliseconds of 2^53 and more are brought to double precision first,
which decides how they are refused. -/
def seconds? (timestamp : Int) : Option Int :=
  if isMillis timestamp then
    if timestamp.natAbs < 9007199254740992 then some (timestamp / 1000)
    else (Decimal.Binary.ofQuotient? timestamp 1000).bind floor?
  else some timestamp

def moment (timestamp : Int) : Except Flaw Moment :=
  match seconds? timestamp with
  | none => .error .seconds
  | some s =>
      if s < -9223372036854775808 ∨ 9223372036854775808 < s then .error .seconds
      else if s < -67768040609740800 ∨ 67768036191676799 < s then .error .longYear
      else if s < firstSecond ∨ lastSecond < s then .error .year
      else .ok (Moment.ofSeconds s)

def dayNames : List String := ["Mon", "Tue", "Wed", "Thu", "Fri", "Sat", "Sun"]

def monthNames : List String :=
  ["Jan", "Feb", "Mar", "Apr", "May", "Jun", "Jul", "Aug", "Sep", "Oct", "Nov", "Dec"]

/-- A moment as `Tue Jan 01 00:00:00 UTC 2013`; the year is not filled up. -/
def Moment.text (t : Moment) : String :=
  let day := dayNames.getD (weekday t.date.dayNumber) ""
  let month := monthNames.getD (t.date.month - 1) ""
  let two := Numeral.padded 2
  day ++ " " ++ month ++ " " ++ two t.date.day ++ " " ++ two t.hour ++ ":" ++ two t.minute ++ ":" ++
    two t.second ++ " UTC " ++ Numeral.natural t.date.year

def dateText (timestamp : Int) : Except Flaw String :=
  (moment timestamp).map Moment.text

end RawSeries.Calendar
