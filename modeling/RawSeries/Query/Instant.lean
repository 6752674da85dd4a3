import RawSeries.Calendar.Pattern
import RawSeries.Decimal.Quantity
import RawSeries.Query.Duration

namespace RawSeries

namespace Quantity

def wholePart (x : Decimal.Binary) : Except NumberFlaw Int :=
  match x with
  | .nan => .error .notANumber
  | .infinite _ => .error .infinite
  | .finite .. => .ok (x.truncate?.getD 0)

def truncated : Quantity → Except NumberFlaw Int
  | whole n => .ok n
  | real x => wholePart x

def toDouble : Quantity → Except NumberFlaw Decimal.Binary
  | whole n =>
      match Decimal.Binary.ofQuotient? n 1 with
      | some x => .ok x
      | none => .error .wholeTooLarge
  | real x => .ok x

/-- The whole seconds of the instant a number of milliseconds ago, computed in double precision. -/
def before (now : Quantity) (millis : Nat) : Except NumberFlaw Int := do
  match Decimal.Binary.ofQuotient? millis 1000 with
  | none => throw .quotientTooLarge
  | some ago => wholePart ((← now.toDouble).plus ago.negate)

end Quantity

namespace Instant

/-- The text before `-ago`. -/
def ago? (text : String) : Option String :=
  let cs := text.toList
  let kept := cs.take (cs.length - 4)
  if cs.drop (cs.length - 4) = ['-', 'a', 'g', 'o'] then some (String.ofList kept) else none

/-- The seconds of an instant that a text denotes. A number of more than ten signs is in
milliseconds. -/
def read (now : Quantity) (given : String) : Except Fault Int :=
  let text := Text.strip given
  if text = "now" then now.truncated.mapError Fault.number
  else
    match ago? text with
    | some duration => do
        let millis ← Duration.millis duration
        (now.before millis).mapError Fault.number
    | none =>
        let cs := text.toList
        if cs ≠ [] ∧ cs.all Text.isDigit then do
          let n ← (Duration.number cs).mapError Fault.number
          return ((if 10 < cs.length then n / 1000 else n : Nat) : Int)
        else
          match Calendar.absolute? cs with
          | some seconds => .ok seconds
          | none => .error (.query (.badDate text))

end Instant

end RawSeries
