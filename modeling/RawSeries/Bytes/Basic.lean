namespace RawSeries

abbrev Bytes := List UInt8

namespace Bytes

/-- The big-endian number that the bytes write; the empty string writes zero. -/
def value (b : Bytes) : Nat :=
  b.foldl (fun n x => n * 256 + x.toNat) 0

/-- The last `width` base-256 digits of `n`, most significant first. -/
def encode : Nat → Nat → Bytes
  | 0, _ => []
  | width + 1, n => UInt8.ofNat (n / Nat.pow 256 width % 256) :: encode width n

/-- Big-endian in exactly `width` bytes, for a number that fits. -/
def encode? (width : Nat) (n : Int) : Option Bytes :=
  if 0 ≤ n ∧ n < Nat.pow 256 width then some (encode width n.toNat) else none

/-- The big-endian two's complement number that the bytes write. -/
def signedValue (b : Bytes) : Int :=
  match b with
  | [] => 0
  | x :: _ => if x < 128 then value b else (value b : Int) - Nat.pow 256 b.length

/-- One byte as a number from -128 to 127. -/
def signedByte (x : UInt8) : Int :=
  if x < 128 then x.toNat else (x.toNat : Int) - 256

def before (a b : Bytes) : Bool :=
  decide (a < b)

def ascii (s : String) : Bytes :=
  s.toList.map fun c => UInt8.ofNat c.toNat

def hexChar (n : Nat) : Char :=
  if n < 10 then Char.ofNat (48 + n) else Char.ofNat (87 + n)

def toHex (b : Bytes) : String :=
  String.ofList (b.flatMap fun x => [hexChar (x.toNat / 16), hexChar (x.toNat % 16)])

def hexDigit? (c : Char) : Option Nat :=
  if '0' ≤ c ∧ c ≤ '9' then some (c.toNat - 48)
  else if 'a' ≤ c ∧ c ≤ 'f' then some (c.toNat - 87)
  else if 'A' ≤ c ∧ c ≤ 'F' then some (c.toNat - 55)
  else none

def ofHexDigits? : List Char → Option Bytes
  | [] => some []
  | [_] => none
  | h :: l :: rest => do
      let hi ← hexDigit? h
      let lo ← hexDigit? l
      return UInt8.ofNat (16 * hi + lo) :: (← ofHexDigits? rest)

def ofHex? (s : String) : Option Bytes :=
  ofHexDigits? s.toList

/-- The part before the first `x`, and the part after it; all and nothing when there is no `x`. -/
def cut (x : UInt8) : Bytes → Bytes × Bytes
  | [] => ([], [])
  | y :: rest =>
      if y = x then ([], rest)
      else
        let (head, tail) := cut x rest
        (y :: head, tail)

end Bytes

end RawSeries
