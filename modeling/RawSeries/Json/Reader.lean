import RawSeries.Bytes.Basic
import RawSeries.Decimal.Reader
import RawSeries.Json.Basic

/-!
Reading JSON text. Besides the standard the words `NaN`, `Infinity` and `-Infinity` are numbers. Of
several fields with one name the last counts. Lists and objects may be nested up to a limit.
-/

namespace RawSeries.Json

/-- Why text is no JSON. -/
inductive Flaw where
  | malformed
  /-- A whole number with too many digits. -/
  | tooManyDigits (count : Nat)
  /-- A list or an object within too many others. -/
  | tooDeep
deriving DecidableEq

def isSpace (c : Char) : Bool :=
  c == ' ' || c == '\t' || c == '\n' || c == '\r'

def skipSpace (cs : List Char) : List Char :=
  cs.dropWhile isSpace

def word? : List Char → List Char → Option (List Char)
  | [], cs => some cs
  | _ :: _, [] => none
  | w :: ws, c :: cs => if w = c then word? ws cs else none

def unit? : List Char → Option (Nat × List Char)
  | a :: b :: c :: d :: rest => do
      let a ← Bytes.hexDigit? a
      let b ← Bytes.hexDigit? b
      let c ← Bytes.hexDigit? c
      let d ← Bytes.hexDigit? d
      return (a * 4096 + b * 256 + c * 16 + d, rest)
  | _ => none

def shortEscape? (c : Char) : Option Char :=
  if c = '"' ∨ c = '\\' ∨ c = '/' then some c
  else if c = 'b' then some (Char.ofNat 8)
  else if c = 'f' then some (Char.ofNat 12)
  else if c = 'n' then some '\n'
  else if c = 'r' then some '\r'
  else if c = 't' then some '\t'
  else none

/-- A character written as one or two escaped units, after the first backslash and `u`. Half a pair
is kept where the other half is missing. -/
def unicode? (cs : List Char) : Option (CodePoint × List Char) := do
  let (high, rest) ← unit? cs
  if 55296 ≤ high ∧ high < 56320 then
    match rest with
    | '\\' :: 'u' :: more =>
        let (low, after) ← unit? more
        match Half.join? high low with
        | some c => return (.char c, after)
        | none => return (.ofNat high, rest)
    | _ => return (.ofNat high, rest)
  else return (.ofNat high, rest)

/-- A string up to its closing quote. The fuel is the length of the text. -/
def readText : Nat → List Char → Except Flaw (List CodePoint × List Char)
  | 0, _ => .error .malformed
  | _ + 1, [] => .error .malformed
  | fuel + 1, c :: rest =>
      if c = '"' then .ok ([], rest)
      else if c = '\\' then
        match rest with
        | 'u' :: more =>
            match unicode? more with
            | some (x, after) => (readText fuel after).map fun (xs, left) => (x :: xs, left)
            | none => .error .malformed
        | e :: more =>
            match shortEscape? e with
            | some x => (readText fuel more).map fun (xs, left) => (.char x :: xs, left)
            | none => .error .malformed
        | [] => .error .malformed
      else if c.toNat < 32 then .error .malformed
      else (readText fuel rest).map fun (xs, left) => (.char c :: xs, left)

def maxDigits : Nat := 4300

/-- The fraction digits after a point: the coefficient they extend, their count, and the rest.
Nothing when no digit follows the point. -/
def fraction? (coefficient : Nat) : List Char → Option (Nat × Nat × List Char)
  | '.' :: rest =>
      let (value, count, left) := Decimal.spanDigits rest coefficient 0
      if count = 0 then none else some (value, count, left)
  | _ => none

def exponent? : List Char → Option (Int × List Char)
  | c :: rest =>
      if c = 'e' ∨ c = 'E' then
        let (negative, digits) :=
          match rest with
          | '-' :: more => (true, more)
          | '+' :: more => (false, more)
          | more => (false, more)
        let (value, count, left) := Decimal.spanDigits digits 0 0
        if count = 0 then none else some (if negative then -(value : Int) else value, left)
      else none
  | [] => none

/-- A number after its sign. -/
def readNumber (negative : Bool) (cs : List Char) : Except Flaw (Json × List Char) :=
  let (coefficient, count, rest) :=
    match cs with
    | '0' :: more => (0, 1, more)
    | _ => Decimal.spanDigits cs 0 0
  if count = 0 then .error .malformed
  else
    let part := fraction? coefficient rest
    let afterFraction := (part.map fun p => p.2.2).getD rest
    let power := exponent? afterFraction
    if part.isNone ∧ power.isNone then
      if maxDigits < count then .error (.tooManyDigits count)
      else .ok (.whole (if negative then -(coefficient : Int) else coefficient), rest)
    else
      let digits := (part.map fun p => p.1).getD coefficient
      let places := (part.map fun p => p.2.1).getD 0
      let exponent := (power.map fun p => p.1).getD 0
      let left := (power.map fun p => p.2).getD afterFraction
      .ok (.real (Decimal.Number.toDouble negative ⟨digits, exponent - places⟩), left)

def readScalar (cs : List Char) : Except Flaw (Json × List Char) :=
  match word? "null".toList cs with
  | some rest => .ok (.null, rest)
  | none =>
  match word? "true".toList cs with
  | some rest => .ok (.bool true, rest)
  | none =>
  match word? "false".toList cs with
  | some rest => .ok (.bool false, rest)
  | none =>
  match word? "NaN".toList cs with
  | some rest => .ok (.real .nan, rest)
  | none =>
  match word? "Infinity".toList cs with
  | some rest => .ok (.real (.infinite false), rest)
  | none =>
  match word? "-Infinity".toList cs with
  | some rest => .ok (.real (.infinite true), rest)
  | none =>
  match cs with
  | '-' :: rest => readNumber true rest
  | _ => readNumber false cs

def maxDepth : Nat := 989

mutual

/-- A value at the start of a text, which may hold lists and objects up to a depth. -/
def readValue : Nat → Nat → List Char → Except Flaw (Json × List Char)
  | 0, _, _ => .error .malformed
  | fuel + 1, depth, cs =>
      match cs, depth with
      | '"' :: rest, _ => do
          let (s, left) ← readText (rest.length + 1) rest
          return (.text (.ofPoints s), left)
      | '[' :: _, 0 => .error .tooDeep
      | '[' :: rest, depth + 1 =>
          match skipSpace rest with
          | ']' :: left => .ok (.list [], left)
          | inner => do
              let (items, left) ← readItems fuel depth inner
              return (.list items, left)
      | '{' :: _, 0 => .error .tooDeep
      | '{' :: rest, depth + 1 =>
          match skipSpace rest with
          | '}' :: left => .ok (.object [], left)
          | inner => do
              let (fields, left) ← readFields fuel depth [] inner
              return (.object fields, left)
      | _, _ => readScalar cs

/-- The items of a list and its closing bracket, from an item on. -/
def readItems : Nat → Nat → List Char → Except Flaw (List Json × List Char)
  | 0, _, _ => .error .malformed
  | fuel + 1, depth, cs => do
      let (x, rest) ← readValue fuel depth cs
      match skipSpace rest with
      | ']' :: left => return ([x], left)
      | ',' :: more => do
          let (xs, left) ← readItems fuel depth (skipSpace more)
          return (x :: xs, left)
      | _ => .error .malformed

/-- The fields of an object and its closing brace, from a name on, after the fields before it. -/
def readFields : Nat → Nat → List (WideText × Json) → List Char →
    Except Flaw (List (WideText × Json) × List Char)
  | 0, _, _, _ => .error .malformed
  | fuel + 1, depth, before, cs =>
      match cs with
      | '"' :: rest => do
          let (name, afterName) ← readText (rest.length + 1) rest
          match skipSpace afterName with
          | ':' :: afterColon => do
              let (value, afterValue) ← readValue fuel depth (skipSpace afterColon)
              let fields := setField before (.ofPoints name) value
              match skipSpace afterValue with
              | '}' :: left => return (fields, left)
              | ',' :: more => readFields fuel depth fields (skipSpace more)
              | _ => .error .malformed
          | _ => .error .malformed
      | _ => .error .malformed

end

/-- Reads a text that holds one value, with white space around it. -/
def read (s : String) : Except Flaw Json := do
  let cs := s.toList
  let (value, rest) ← readValue (2 * cs.length + 2) maxDepth (skipSpace cs)
  if (skipSpace rest).isEmpty then return value else .error .malformed

end RawSeries.Json
