import RawSeries.Bytes.Basic

namespace RawSeries.Decimal

/-- A format: the bits of precision and the bits of the exponent field. -/
structure Format where
  precision : Nat
  exponentBits : Nat

def single : Format := ⟨24, 8⟩

def double : Format := ⟨53, 11⟩

namespace Format

/-- The exponent of two of the last place of the least numbers. -/
def lowest (f : Format) : Int :=
  3 - Nat.pow 2 (f.exponentBits - 1) - f.precision

/-- The exponent of two of the last place of the greatest finite numbers. -/
def highest (f : Format) : Int :=
  f.lowest + (Nat.pow 2 f.exponentBits - 3 : Int)

end Format

/-- The number `mantissa * 2 ^ exponent`. -/
structure Magnitude where
  mantissa : Nat
  exponent : Int
deriving DecidableEq

inductive Binary where
  | nan
  | infinite (negative : Bool)
  | finite (negative : Bool) (size : Magnitude)
deriving DecidableEq

namespace Binary

def zero : Binary := .finite false ⟨0, double.lowest⟩

/-- Reads the bits of a number in a format: sign, exponent field, fraction. -/
def ofBits (f : Format) (bits : Nat) : Binary :=
  let fractionBits := f.precision - 1
  let fraction := bits % Nat.pow 2 fractionBits
  let field := bits / Nat.pow 2 fractionBits % Nat.pow 2 f.exponentBits
  let negative := bits / Nat.pow 2 (fractionBits + f.exponentBits) % 2 == 1
  if field = Nat.pow 2 f.exponentBits - 1 then
    if fraction = 0 then .infinite negative else .nan
  else if field = 0 then .finite negative ⟨fraction, f.lowest⟩
  else .finite negative ⟨Nat.pow 2 fractionBits + fraction, f.lowest + (field - 1)⟩

/-- The bits of a number in its format; a NaN has the quiet bit alone. -/
def toBits (f : Format) (x : Binary) : Nat :=
  let fractionBits := f.precision - 1
  let sign (negative : Bool) := if negative then Nat.pow 2 (fractionBits + f.exponentBits) else 0
  let top := (Nat.pow 2 f.exponentBits - 1) * Nat.pow 2 fractionBits
  match x with
  | .nan => top + Nat.pow 2 (fractionBits - 1)
  | .infinite negative => sign negative + top
  | .finite negative size =>
      if size.mantissa < Nat.pow 2 fractionBits then sign negative + size.mantissa
      else
        sign negative + (size.exponent - f.lowest + 1).toNat * Nat.pow 2 fractionBits +
          (size.mantissa - Nat.pow 2 fractionBits)

/-- Reads the big-endian bytes of a number in a format. -/
def ofBytes (f : Format) (b : Bytes) : Binary :=
  ofBits f (Bytes.value b)

def truncate? : Binary → Option Int
  | .nan => none
  | .infinite _ => none
  | .finite negative ⟨m, e⟩ =>
      let n : Nat := if 0 ≤ e then m * Nat.pow 2 e.toNat else m / Nat.pow 2 (-e).toNat
      some (if negative then -(n : Int) else n)

end Binary

end RawSeries.Decimal
