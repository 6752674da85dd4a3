import RawSeries.Bytes.Basic
import RawSeries.Json.Basic

namespace RawSeries.Json

/-- A backslash, `u` and four hexadecimal digits. -/
def unitEscape (n : Nat) : List Char :=
  ['\\', 'u', Bytes.hexChar (n / 4096 % 16), Bytes.hexChar (n / 256 % 16),
    Bytes.hexChar (n / 16 % 16), Bytes.hexChar (n % 16)]

/-- The escape of a character, in two halves beyond the first 65536. -/
def unitEscapes (c : Char) : List Char :=
  let n := c.toNat
  if n < 65536 then unitEscape n
  else unitEscape (55296 + (n - 65536) / 1024) ++ unitEscape (56320 + (n - 65536) % 1024)

/-- A character within a JSON string. Everything but visible ASCII is escaped. -/
def escapeChar (c : Char) : List Char :=
  let n := c.toNat
  if c = '"' then ['\\', '"']
  else if c = '\\' then ['\\', '\\']
  else if 32 ≤ n ∧ n < 127 then [c]
  else if n = 8 then ['\\', 'b']
  else if n = 9 then ['\\', 't']
  else if n = 10 then ['\\', 'n']
  else if n = 12 then ['\\', 'f']
  else if n = 13 then ['\\', 'r']
  else unitEscapes c

def escapePoint : CodePoint → List Char
  | .char c => escapeChar c
  | .half h => unitEscape h.unit

def writeText (s : WideText) : List Char :=
  '"' :: s.points.flatMap escapePoint ++ ['"']

/-- A number that may be infinite or no number. -/
def writeReal : Decimal.Binary → String
  | .nan => "NaN"
  | .infinite negative => if negative then "-Infinity" else "Infinity"
  | x => x.text

mutual

def writeChars : Json → List Char
  | .null => "null".toList
  | .bool b => (if b then "true" else "false").toList
  | .whole n => (Numeral.integer n).toList
  | .real x => (writeReal x).toList
  | .text s => writeText s
  | .list items => '[' :: writeItems items ++ [']']
  | .object fields => '{' :: writeFields fields ++ ['}']

def writeItems : List Json → List Char
  | [] => []
  | [x] => writeChars x
  | x :: y :: rest => writeChars x ++ ',' :: writeItems (y :: rest)

def writeFields : List (WideText × Json) → List Char
  | [] => []
  | [(name, value)] => writeText name ++ ':' :: writeChars value
  | (name, value) :: next :: rest =>
      writeText name ++ ':' :: writeChars value ++ ',' :: writeFields (next :: rest)

end

def write (j : Json) : String :=
  String.ofList (writeChars j)

end RawSeries.Json
