import RawSeries.Bytes.Basic

namespace RawSeries.Percent

/-- Letters, digits and `_.-~` stand for themselves. -/
def isPlain (x : UInt8) : Bool :=
  let n := x.toNat
  (48 ≤ n && n ≤ 57) || (65 ≤ n && n ≤ 90) || (97 ≤ n && n ≤ 122) ||
    n == 95 || n == 46 || n == 45 || n == 126

def upperDigit (n : Nat) : Char :=
  if n < 10 then Char.ofNat (48 + n) else Char.ofNat (55 + n)

def escapeByte (x : UInt8) : List Char :=
  ['%', upperDigit (x.toNat / 16), upperDigit (x.toNat % 16)]

def encodeByte (x : UInt8) : List Char :=
  if isPlain x then [Char.ofNat x.toNat] else escapeByte x

def encode (b : Bytes) : String :=
  String.ofList (b.flatMap encodeByte)

/-- The bytes of an encoded segment; a percent sign without two digits stands for itself. -/
def decodeChars : List Char → Bytes
  | [] => []
  | '%' :: h :: l :: rest =>
      match Bytes.hexDigit? h, Bytes.hexDigit? l with
      | some hi, some lo => UInt8.ofNat (16 * hi + lo) :: decodeChars rest
      | _, _ => 37 :: decodeChars (h :: l :: rest)
  | c :: rest => UInt8.ofNat c.toNat :: decodeChars rest

def decode (s : String) : Bytes :=
  decodeChars s.toList

end RawSeries.Percent
