import RawSeries.Json.Basic
import RawSeries.Text.Blank

namespace RawSeries.Settings

/-- Why a value is not accepted. -/
inductive Flaw where
  /-- A text that writes no whole number. -/
  | intParsing
  /-- A text with too many digits. -/
  | intParsingSize
  /-- A number with a fraction. -/
  | intFromFloat
  /-- No number, or an infinite one. -/
  | finiteNumber
  | intType
  | stringType
  /-- A text in which half a pair stands alone. -/
  | stringUnicode
  | literal
  | belowLeast
  | aboveGreatest
  | notAbove
  /-- An option for no field. -/
  | extra
  /-- A new value for no field. -/
  | noSuchField
deriving DecidableEq

def Flaw.word : Flaw → String
  | .intParsing => "int_parsing"
  | .intParsingSize => "int_parsing_size"
  | .intFromFloat => "int_from_float"
  | .finiteNumber => "finite_number"
  | .intType => "int_type"
  | .stringType => "string_type"
  | .stringUnicode => "string_unicode"
  | .literal => "literal_error"
  | .belowLeast => "greater_than_equal"
  | .aboveGreatest => "less_than_equal"
  | .notAbove => "greater_than"
  | .extra => "extra_forbidden"
  | .noSuchField => "no_such_attribute"

/-- White space around values; the separators U+001C to U+001F do not belong to it. -/
def isSpace (c : Char) : Bool :=
  Text.isBlank c && !(28 ≤ c.toNat && c.toNat ≤ 31)

def trimmed (cs : List Char) : List Char :=
  ((cs.dropWhile isSpace).reverse.dropWhile isSpace).reverse

def isAsciiDigit (c : Char) : Bool := '0' ≤ c && c ≤ '9'

def maxSigns : Nat := 4300

/-- The whole number that a text writes in the plainest way: digits without zeros before them, after
a hyphen for a negative number. Digits that are too many are refused before what follows them. -/
def plainWhole (cs : List Char) : Except Flaw Int :=
  let (negative, rest) := match cs with
    | '-' :: rest => (true, rest)
    | _ => (false, cs)
  let digits := rest.takeWhile isAsciiDigit
  let size := if negative then digits.length + 1 else digits.length
  if rest = ['0'] then .ok 0
  else if digits.isEmpty ∨ digits.head? = some '0' then .error .intParsing
  else if maxSigns < size then .error .intParsingSize
  else if digits.length < rest.length then .error .intParsing
  else
    let n : Nat := digits.foldl (fun n c => 10 * n + (c.toNat - 48)) 0
    .ok (if negative then -(n : Int) else n)

def signed : List Char → Bool × List Char
  | '-' :: rest => (true, rest)
  | '+' :: rest => (false, rest)
  | cs => (false, cs)

/-- What follows zeros and low lines, of which `last` was the last one. A point keeps it. -/
def afterZeros? (last : Char) : List Char → Option (List Char)
  | [] => some [last]
  | c :: rest =>
      if c = '0' ∨ c = '_' then afterZeros? c rest
      else if isAsciiDigit c ∨ c = '-' then some (c :: rest)
      else if c = '.' then some (last :: c :: rest)
      else none

/-- Text that begins with a digit, without zeros before it. -/
def withoutZeros? : List Char → Option (List Char)
  | [] => none
  | c :: rest =>
      if c = '0' then afterZeros? c rest
      else if isAsciiDigit c then some (c :: rest)
      else none

/-- The text before a point that zeros follow, one at least; any other text as it is. -/
def withoutFraction (cs : List Char) : List Char :=
  match Text.cutAt? '.' cs with
  | some (whole, fraction) =>
      if !fraction.isEmpty && fraction.all (· == '0') then whole else cs
  | none => cs

/-- Every low line stands between other characters. -/
def areLinesInside : List Char → Bool
  | [] => true
  | ['_'] => false
  | '_' :: '_' :: _ => false
  | _ :: rest => areLinesInside rest

/-- The text without low lines, if all of them stand between other characters; else as it is. -/
def withoutLines (cs : List Char) : List Char :=
  if cs.head? != some '_' && areLinesInside cs then cs.filter (· != '_') else cs

/-- The plainest form of a text for a number: without white space around it, a plus sign, zeros
before the digits, a fraction of zeros, and low lines between digits. -/
def plainest? (cs : List Char) : Option (List Char) :=
  let (negative, rest) := signed (trimmed cs)
  (withoutZeros? rest).map fun digits =>
    let plain := withoutLines (withoutFraction digits)
    if negative then '-' :: plain else plain

def wholeOfText (s : String) : Except Flaw Int :=
  match plainWhole s.toList with
  | .ok n => .ok n
  | .error .intParsingSize => .error .intParsingSize
  | .error _ =>
      match (plainest? s.toList).map plainWhole with
      | some (.ok n) => .ok n
      | _ => .error .intParsing

/-- The whole number that a value stands for. Numbers with a point or an exponent are whole only
within 63 bits and a sign. -/
def wholeOf : Json → Except Flaw Int
  | .whole n => .ok n
  | .bool b => .ok (if b then 1 else 0)
  | .text (.plain s) => wholeOfText s
  | .text (.ragged _) => .error .stringUnicode
  | .real (.finite negative size) =>
      match (Decimal.Binary.finite negative size).truncate? with
      | some n =>
          let (num, den) := size.quotient
          if num % den ≠ 0 then .error .intFromFloat
          else if 9223372036854775808 ≤ n.natAbs then .error .intParsingSize
          else .ok n
      | none => .error .finiteNumber
  | .real _ => .error .finiteNumber
  | _ => .error .intType

/-- A whole number from `least` to `greatest`, where `greatest` may be missing. -/
def numberOf (least : Nat) (greatest : Option Nat) (tooSmall : Flaw) (j : Json) :
    Except Flaw Nat := do
  let n ← wholeOf j
  match greatest with
  | some g =>
      if (g : Int) < n then throw .aboveGreatest
      else if n < least then throw tooSmall
      else return n.toNat
  | none => if n < least then throw tooSmall else return n.toNat

end RawSeries.Settings
