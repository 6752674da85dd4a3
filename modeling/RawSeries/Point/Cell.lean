import RawSeries.Point.Qualifier
import RawSeries.Bytes.Listing
import RawSeries.Calendar.Stamp
import RawSeries.Decimal.Notation

namespace RawSeries

namespace Point

inductive Flaw where
  /-- The qualifier ends before a byte that has to be read. -/
  | missingByte
  /-- A four-byte float in eight bytes whose first four are not zero. -/
  | corruptedFloat (value : Bytes)
  /-- A value of another length than the flags declare. -/
  | width (stored declared : Nat)
  /-- A whole number of a length other than 1, 2, 4 and 8. -/
  | integerLength (value : Bytes)
  /-- A floating point number of a length other than 4 and 8. -/
  | floatLength (value : Bytes)
deriving DecidableEq

def Flaw.message : Flaw → String
  | .missingByte => "index out of range"
  | .corruptedFloat value => "Corrupted floating point value: " ++ Bytes.listing value
  | .width stored declared =>
      "value is " ++ Numeral.natural stored ++ " bytes but the qualifier declares " ++
        Numeral.natural declared
  | .integerLength value =>
      "Invalid integer value length " ++ Numeral.natural value.length ++ ": " ++ Bytes.listing value
  | .floatLength value =>
      "Invalid floating point value length " ++ Numeral.natural value.length ++ ": " ++
        Bytes.listing value

inductive Value where
  | whole (n : Int)
  | single (x : Decimal.Binary)
  | double (x : Decimal.Binary)

/-- The text of a value: the shortest that its own type reads back. -/
def Value.text : Value → String
  | .whole n => Numeral.integer n
  | .single x => x.singleText
  | .double x => x.text

/-- Some old writers stored four-byte floats in eight bytes with four leading zeros; only the last
four count. -/
def shortenFloat (flags : Nat) (value : Bytes) : Except Flaw Bytes :=
  if flags = 11 ∧ value.length = 8 then
    if value.take 4 = [0, 0, 0, 0] then .ok (value.drop 4) else .error (.corruptedFloat value)
  else .ok value

end Point

/-- The qualifier and the value bytes of one point. -/
structure Cell where
  qualifier : Bytes
  value : Bytes
deriving DecidableEq

namespace Cell

/-- What a qualifier says, or the flaw that it has too few bytes. -/
def present {α : Type} : Option α → Except Point.Flaw α
  | some a => .ok a
  | none => .error .missingByte

def inMillis (c : Cell) : Except Point.Flaw Bool :=
  present (Qualifier.millis? c.qualifier)

def offset (c : Cell) : Except Point.Flaw Nat :=
  present (Qualifier.offset? c.qualifier)

def flags (c : Cell) : Except Point.Flaw Nat :=
  present (Qualifier.flags? c.qualifier)

def isWhole (c : Cell) : Except Point.Flaw Bool := do
  return !Qualifier.isFloat (← c.flags)

/-- The timestamp of the point, in its own resolution. -/
def timestamp (base : Int) (c : Cell) : Except Point.Flaw Int := do
  let offset ← c.offset
  if ← c.inMillis then return base * 1000 + offset
  else return base + (offset / 1000 : Nat)

/-- The offset that is shown: in milliseconds when the timestamp is large enough to be in
milliseconds, else in seconds. -/
def shownOffset (base : Int) (c : Cell) : Except Point.Flaw Nat := do
  let timestamp ← c.timestamp base
  let offset ← c.offset
  return if Calendar.isMillis timestamp then offset else offset / 1000

def read (c : Cell) : Except Point.Flaw Point.Value := do
  let n := c.value.length
  if ← c.isWhole then
    if n = 1 ∨ n = 2 ∨ n = 4 ∨ n = 8 then return .whole (Bytes.signedValue c.value)
    else throw (.integerLength c.value)
  else if n = 4 then return .single (.ofBytes Decimal.single c.value)
  else if n = 8 then return .double (.ofBytes Decimal.double c.value)
  else throw (.floatLength c.value)

def valueText (c : Cell) : Except Point.Flaw String :=
  c.read.map Point.Value.text

end Cell

end RawSeries
