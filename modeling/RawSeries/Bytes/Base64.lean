import RawSeries.Bytes.Basic

namespace RawSeries.Base64

/-- Why text is no base64. -/
inductive Flaw where
  /-- A character beyond ASCII. -/
  | notAscii
  /-- The text ends inside a group of four that no padding completes. -/
  | incomplete

/-- The letter of a number below 64. -/
def letter (n : Nat) : Char :=
  if n < 26 then Char.ofNat (65 + n)
  else if n < 52 then Char.ofNat (71 + n)
  else if n < 62 then Char.ofNat (n - 4)
  else if n = 62 then '+' else '/'

def number? (c : Char) : Option Nat :=
  if 'A' ≤ c ∧ c ≤ 'Z' then some (c.toNat - 65)
  else if 'a' ≤ c ∧ c ≤ 'z' then some (c.toNat - 71)
  else if '0' ≤ c ∧ c ≤ '9' then some (c.toNat + 4)
  else if c = '+' then some 62
  else if c = '/' then some 63
  else none

/-- Groups of three bytes in four letters, the last group padded. -/
def encodeChars : Bytes → List Char
  | [] => []
  | [a] => [letter (a.toNat / 4), letter (a.toNat % 4 * 16), '=', '=']
  | [a, b] =>
      [letter (a.toNat / 4), letter (a.toNat % 4 * 16 + b.toNat / 16),
        letter (b.toNat % 16 * 4), '=']
  | a :: b :: c :: rest =>
      letter (a.toNat / 4) :: letter (a.toNat % 4 * 16 + b.toNat / 16) ::
        letter (b.toNat % 16 * 4 + c.toNat / 64) :: letter (c.toNat % 64) :: encodeChars rest

def encode (b : Bytes) : String :=
  String.ofList (encodeChars b)

/-- The byte that ends with the letter of number `n` at place `place` of its group, when the letter
before it left the number `left`. -/
def finished (place left n : Nat) : Bytes :=
  if place = 0 then []
  else if place = 1 then [UInt8.ofNat (left * 4 + n / 16)]
  else if place = 2 then [UInt8.ofNat (left * 16 + n / 4)]
  else [UInt8.ofNat (left * 64 + n)]

/-- The bits of the letter of number `n` that wait for the next letter. -/
def leftOver (place n : Nat) : Nat :=
  if place = 0 then n else if place = 1 then n % 16 else if place = 2 then n % 4 else 0

/-- Reads letters from place `place` of a group on, after `pads` padding signs in a row. -/
def decodeFrom (place left pads : Nat) : List Char → Except Flaw Bytes
  | [] => if place = 0 then .ok [] else .error .incomplete
  | c :: rest =>
      if c = '=' then
        if 2 ≤ place ∧ 4 ≤ place + pads + 1 then .ok []
        else decodeFrom place left (if 2 ≤ place then pads + 1 else pads) rest
      else
        match number? c with
        | none => decodeFrom place left pads rest
        | some n => do
            return finished place left n ++
              (← decodeFrom ((place + 1) % 4) (leftOver place n) 0 rest)

def decode (s : String) : Except Flaw Bytes :=
  if s.toList.all (·.toNat < 128) then decodeFrom 0 0 0 s.toList else .error .notAscii

end RawSeries.Base64
