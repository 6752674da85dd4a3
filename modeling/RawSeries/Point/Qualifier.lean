import RawSeries.Bytes.Slice
import RawSeries.Text.Numeral

/-!
Point qualifiers. A qualifier of two bytes holds 12 bits of seconds and 4 flag bits; one of four
bytes starts with a nibble of ones and holds 22 bits of milliseconds, 2 unused bits and 4 flag bits.
The flags tell floating point from whole numbers and give the length of the value less one.
-/

namespace RawSeries.Qualifier

/-- The first byte has the nibble that marks milliseconds. -/
def marksMillis (x : UInt8) : Bool :=
  240 ≤ x.toNat

/-- Whether the qualifier at the start of a byte string is in milliseconds. -/
def millis? (q : Bytes) : Option Bool :=
  q.head?.map marksMillis

/-- Whether the qualifier at the start of a byte string is in milliseconds; no for the empty one. -/
def millis (q : Bytes) : Bool :=
  (millis? q).getD false

/-- The bytes of the qualifier at the start of a byte string. -/
def width (q : Bytes) : Nat :=
  if millis q then 4 else 2

/-- The offset in milliseconds from the base time of the row; bytes that are cut off shorten the
number that is read. -/
def offset (q : Bytes) : Nat :=
  if millis q then Bytes.value (q.take 4) / 64 % 4194304
  else Bytes.value (q.take 2) / 16 * 1000

/-- The offset, when there is a byte to tell the resolution. -/
def offset? (q : Bytes) : Option Nat :=
  if q.isEmpty then none else some (offset q)

/-- The four flag bits, which stand at the end of the qualifier. -/
def flags? (q : Bytes) : Option Nat :=
  q[width q - 1]?.map (·.toNat % 16)

/-- The four flag bits; zero when they are cut off. -/
def flags (q : Bytes) : Nat :=
  (flags? q).getD 0

/-- Whether the qualifier at a place of a byte string is in milliseconds. -/
def millisAt? (q : Bytes) (place : Int) : Option Bool :=
  (q.at? place).map marksMillis

def offsetAt? (q : Bytes) (place : Int) : Option Nat :=
  (millisAt? q place).map fun m =>
    if m then Bytes.value (q.slice place (place + 4)) / 64 % 4194304
    else Bytes.value (q.slice place (place + 2)) / 16 * 1000

def flagsAt? (q : Bytes) (place : Int) : Option Nat :=
  (millisAt? q place).bind fun m =>
    (q.at? (place + if m then 3 else 1)).map (·.toNat % 16)

def isFloat (flags : Nat) : Bool :=
  8 ≤ flags

def valueLength (flags : Nat) : Nat :=
  flags % 8 + 1

/-- A qualifier of one point: two bytes, or four with the millisecond nibble. -/
def isSingle? (q : Bytes) : Option Bool :=
  if q.length = 2 then some true
  else if q.length = 4 then millis? q
  else some false

/-- The flags for a value of a length, modulo eight. -/
def flagsFor (value : Bytes) (float : Bool) : Nat :=
  (value.length + 7) % 8 + if float then 8 else 0

/-- An offset that no qualifier holds. -/
structure OffsetRange where
  millis : Bool
  offset : Int

def OffsetRange.message (r : OffsetRange) : String :=
  (if r.millis then "millisecond" else "second") ++ " offset out of range: " ++
    Numeral.integer r.offset

/-- The qualifier of an offset in milliseconds or seconds. Of the flags the lowest four bits
count. -/
def build (millis : Bool) (offset flags : Int) : Except OffsetRange Bytes :=
  let low := (flags % 16).toNat
  if millis then
    if 0 ≤ offset ∧ offset < 4194304 then
      .ok (Bytes.encode 4 (4026531840 + offset.toNat * 64 + low))
    else .error ⟨true, offset⟩
  else if 0 ≤ offset ∧ offset < 4096 then .ok (Bytes.encode 2 (offset.toNat * 16 + low))
  else .error ⟨false, offset⟩

end RawSeries.Qualifier
