import RawSeries.Decimal.Shortest

namespace RawSeries.Decimal

/-- Decisions of a notation: the decimal exponents that are written without an exponent mark, and
the least count of exponent digits. -/
structure Layout where
  least : Int
  greatest : Int
  exponentDigits : Nat

/-- Positional from 0.0001 up to 16 digits before the point, always with a digit after the point;
beyond that an exponent with a sign and two digits or more. -/
def plainLayout : Layout := ⟨-4, 15, 2⟩

def zerosText (n : Nat) : String :=
  String.ofList (List.replicate n '0')

def Number.text (layout : Layout) (x : Number) : String :=
  let ds := (Numeral.digits x.coefficient).map Numeral.digitChar
  let size := ds.length
  let lead : Int := x.exponent + size - 1
  if layout.least ≤ lead ∧ lead ≤ layout.greatest then
    if lead < 0 then "0." ++ zerosText (-lead - 1).toNat ++ String.ofList ds
    else
      let whole := lead.toNat + 1
      if size ≤ whole then String.ofList ds ++ zerosText (whole - size) ++ ".0"
      else String.ofList (ds.take whole) ++ "." ++ String.ofList (ds.drop whole)
  else
    let fraction := if size = 1 then "" else "." ++ String.ofList (ds.drop 1)
    String.ofList (ds.take 1) ++ fraction ++ "e" ++ (if lead < 0 then "-" else "+") ++
      Numeral.padded layout.exponentDigits lead.natAbs

/-- The shortest text that reads back to a double. -/
def Binary.text : Binary → String
  | .nan => "nan"
  | .infinite negative => if negative then "-inf" else "inf"
  | .finite negative size =>
      (if negative then "-" else "") ++ (shortest double size).text plainLayout

/-- The text of the double that a decimal reads to, when reading it and going on to the four-byte
format gives `x`. -/
def readsBackText? (x : Magnitude) (number : Number) : Option String := do
  let wide ← number.round? double
  let narrow ← wide.round? single
  if narrow = x then some ((shortest double wide).text plainLayout) else none

/-- Tries the nearest decimals of `count`, `count + 1`, … digits, `tries` of them. -/
def singleTextFrom (x : Magnitude) : Nat → Nat → Option String
  | 0, _ => none
  | tries + 1, count =>
      match readsBackText? x (significant count x.quotient.1 x.quotient.2) with
      | some text => some text
      | none => singleTextFrom x tries (count + 1)

/-- The text of a four-byte number: the first nearest decimal of one to nine digits that reads back
to it, else the text of the equal double. -/
def Binary.singleText : Binary → String
  | .nan => "nan"
  | .infinite negative => if negative then "-inf" else "inf"
  | .finite negative size =>
      let sign := if negative then "-" else ""
      if size.mantissa = 0 then sign ++ "0.0"
      else
        match singleTextFrom size 9 1 with
        | some text => sign ++ text
        | none => (Binary.finite negative ((size.round? double).getD size)).text

end RawSeries.Decimal
