/-!
Text in UTF-16 writes the characters beyond the first 65536 in pairs of halves. A half that stands
alone is no character, and text that holds one is kept apart from all other text.
-/

namespace RawSeries

/-- One of the two units of a pair. -/
structure Half where
  unit : Nat
  bounds : 55296 ≤ unit ∧ unit < 57344
deriving DecidableEq

/-- The character that two units write, if the first begins a pair and the second ends one. -/
def Half.join? (high low : Nat) : Option Char :=
  if 55296 ≤ high ∧ high < 56320 ∧ 56320 ≤ low ∧ low < 57344 then
    some (Char.ofNat (65536 + (high - 55296) * 1024 + (low - 56320)))
  else none

/-- A character, or a half that stands alone. -/
inductive CodePoint where
  | char (c : Char)
  | half (h : Half)
deriving DecidableEq

namespace CodePoint

/-- The character with a number, or the half with it. -/
def ofNat (n : Nat) : CodePoint :=
  if h : 55296 ≤ n ∧ n < 57344 then .half ⟨n, h⟩ else .char (Char.ofNat n)

def isHalf : CodePoint → Bool
  | .char _ => false
  | .half _ => true

def char? : CodePoint → Option Char
  | .char c => some c
  | .half _ => none

end CodePoint

/-- Text in which a half stands alone. -/
structure RaggedText where
  points : List CodePoint
  ragged : points.any CodePoint.isHalf = true
deriving DecidableEq

/-- Text of characters, or of characters and halves. -/
inductive WideText where
  | plain (s : String)
  | ragged (t : RaggedText)
deriving DecidableEq

namespace WideText

instance : Coe String WideText := ⟨plain⟩

def ofPoints (points : List CodePoint) : WideText :=
  if h : points.any CodePoint.isHalf = true then .ragged ⟨points, h⟩
  else .plain (String.ofList (points.filterMap CodePoint.char?))

def points : WideText → List CodePoint
  | .plain s => s.toList.map .char
  | .ragged t => t.points

/-- The text, unless a half stands alone in it. -/
def plain? : WideText → Option String
  | .plain s => some s
  | .ragged _ => none

end WideText

end RawSeries
