import RawSeries.Bytes.Basic
import RawSeries.Text.Printable

namespace RawSeries.Quoted

/-- Single quotes, unless the text has one of them and no double quote. -/
def quoteFor (single double : Bool) : Char :=
  if single && !double then '"' else '\''

/-- The last hexadecimal digits of a number, as many as `width` says. -/
def hexDigits : Nat → Nat → List Char
  | 0, _ => []
  | width + 1, n => Bytes.hexChar (n / Nat.pow 16 width % 16) :: hexDigits width n

/-- A backslash, a letter and as many hexadecimal digits as the letter asks for. -/
def escape (code : Nat) : List Char :=
  if code < 256 then '\\' :: 'x' :: hexDigits 2 code
  else if code < 65536 then '\\' :: 'u' :: hexDigits 4 code
  else '\\' :: 'U' :: hexDigits 8 code

/-- The escapes that quoted text and quoted bytes share. -/
def shortEscape? (quote : Char) (code : Nat) : Option (List Char) :=
  if code = quote.toNat then some ['\\', quote]
  else if code = 92 then some ['\\', '\\']
  else if code = 9 then some ['\\', 't']
  else if code = 10 then some ['\\', 'n']
  else if code = 13 then some ['\\', 'r']
  else none

def textChar (quote c : Char) : List Char :=
  (shortEscape? quote c.toNat).getD (if Text.isPrintable c then [c] else escape c.toNat)

/-- Text between quotes. -/
def text (s : String) : String :=
  let cs := s.toList
  let quote := quoteFor (cs.contains '\'') (cs.contains '"')
  String.ofList (quote :: cs.flatMap (textChar quote) ++ [quote])

/-- One byte of quoted bytes: only visible ASCII stands for itself. -/
def byteChars (quote : Char) (x : UInt8) : List Char :=
  let n := x.toNat
  (shortEscape? quote n).getD (if 32 ≤ n ∧ n < 127 then [Char.ofNat n] else escape n)

/-- Bytes between quotes, marked by a leading `b`. -/
def bytes (b : Bytes) : String :=
  let quote := quoteFor (b.contains 39) (b.contains 34)
  String.ofList ('b' :: quote :: b.flatMap (byteChars quote) ++ [quote])

end RawSeries.Quoted
