import RawSeries.Bytes.Basic
import RawSeries.Text.Half

namespace RawSeries.Wide

/-- Units of two or of four bytes, with the highest byte first or last. -/
structure Form where
  /-- Four bytes, not two. -/
  long : Bool
  /-- The highest byte comes first. -/
  highFirst : Bool
deriving DecidableEq

/-- The units in which JSON text is written, if not in single bytes. -/
def form? : Bytes → Option Form
  | 0 :: 0 :: _ :: _ :: _ => some ⟨true, true⟩
  | 0 :: _ :: _ :: _ :: _ => some ⟨false, true⟩
  | _ :: 0 :: 0 :: 0 :: _ => some ⟨true, false⟩
  | _ :: 0 :: _ :: _ :: _ => some ⟨false, false⟩
  | [0, _] => some ⟨false, true⟩
  | [_, 0] => some ⟨false, false⟩
  | _ => none

def unit (f : Form) (b : Bytes) : Nat :=
  Bytes.value (if f.highFirst then b else b.reverse)

/-- The units of two bytes, unless the last one is cut short. -/
def shorts? (f : Form) : Bytes → Option (List Nat)
  | [] => some []
  | [_] => none
  | a :: b :: rest => (shorts? f rest).map (unit f [a, b] :: ·)

/-- The units of four bytes, unless the last one is cut short. -/
def longs? (f : Form) : Bytes → Option (List Nat)
  | [] => some []
  | a :: b :: c :: d :: rest => (longs? f rest).map (unit f [a, b, c, d] :: ·)
  | _ => none

/-- The character with a number. A half that stands alone is read as the sign for what is no
character, which like the half has no place in JSON but within a string, and none in base64. -/
def charOf (n : Nat) : Char :=
  ((CodePoint.ofNat n).char?).getD (Char.ofNat 65533)

/-- The characters that are written in units of two bytes. -/
def joined : List Nat → List Char
  | [] => []
  | [n] => [charOf n]
  | m :: n :: rest =>
      match Half.join? m n with
      | some c => c :: joined rest
      | none => charOf m :: joined (n :: rest)

/-- The characters of a text in some units; nothing for units that are no characters. -/
def decode? (f : Form) (b : Bytes) : Option (List Char) :=
  if f.long then
    (longs? f b).bind fun units =>
      if units.all (· < 1114112) then some (units.map charOf) else none
  else (shorts? f b).map joined

end RawSeries.Wide
