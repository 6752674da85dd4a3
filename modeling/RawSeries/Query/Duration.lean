import RawSeries.Fault
import RawSeries.Text.Digit

namespace RawSeries.Duration

/-- The milliseconds of a unit. A month has 30 days and a year 365. -/
def unitMillis? : List Char → Option Nat
  | ['m', 's'] => some 1
  | ['s'] => some 1000
  | ['m'] => some 60000
  | ['h'] => some 3600000
  | ['d'] => some 86400000
  | ['w'] => some 604800000
  | ['n'] => some 2592000000
  | ['y'] => some 31536000000
  | _ => none

/-- One line feed at the end counts for nothing. -/
def dropLineEnd (cs : List Char) : List Char :=
  match cs.reverse with
  | '\n' :: rest => rest.reverse
  | _ => cs

def maxDigits : Nat := 4300

/-- The number that digits of any script write; other signs are a fault, and too many digits before
them too. -/
def number (digits : List Char) : Except NumberFlaw Nat :=
  let count := (digits.takeWhile Text.isDecimal).length
  if maxDigits < count then .error (.tooManyDigits count)
  else if count < digits.length then .error (.notDecimal (String.ofList digits))
  else .ok (digits.foldl (fun n c => 10 * n + (Text.digitValue? c).getD 0) 0)

def millis (text : String) : Except Fault Nat :=
  let cs := text.toList
  let digits := cs.takeWhile Text.isDecimal
  let unit := dropLineEnd (cs.dropWhile Text.isDecimal)
  match digits, unitMillis? unit with
  | _ :: _, some size => ((number digits).mapError Fault.number).map (· * size)
  | _, _ => .error (.query (.badDuration text))

/-- The seconds of a duration of at least one second. -/
def seconds (text : String) : Except Fault Nat := do
  let s := (← millis text) / 1000
  if s = 0 then throw (.query (.shortDuration text))
  return s

end RawSeries.Duration
