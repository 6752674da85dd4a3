import RawSeries.Decimal.Binary

/-!
Rounding of quotients to whole numbers and to binary floating point numbers. A half goes to the even
neighbour.
-/

namespace RawSeries.Decimal

/-- The whole number nearest to a quotient, of two the even one. -/
def roundEven (num den : Nat) : Nat :=
  let q := num / den
  let r := num % den
  if 2 * r < den then q
  else if den < 2 * r then q + 1
  else q + q % 2

def shrink (base num den : Nat) : Int → Nat × Nat
  | .ofNat k => (num, den * Nat.pow base k)
  | .negSucc k => (num * Nat.pow base (k + 1), den)

namespace Format

/-- The exponent of two of the last place that a quotient keeps in a format. -/
def place (f : Format) (num den : Nat) : Int :=
  let guess : Int := (Nat.log2 num : Int) - Nat.log2 den - (f.precision - 1)
  let (n, d) := shrink 2 num den guess
  max (if d * Nat.pow 2 (f.precision - 1) ≤ n then guess else guess - 1) f.lowest

/-- The number of a format nearest to a quotient, or nothing when it is too large for the format. -/
def round? (f : Format) (num den : Nat) : Option Magnitude :=
  if num = 0 then some ⟨0, f.lowest⟩
  else
    let e := f.place num den
    let (n, d) := shrink 2 num den e
    let m := roundEven n d
    let size : Magnitude :=
      if m = Nat.pow 2 f.precision then ⟨Nat.pow 2 (f.precision - 1), e + 1⟩ else ⟨m, e⟩
    if f.highest < size.exponent then none else some size

end Format

def Magnitude.quotient (x : Magnitude) : Nat × Nat :=
  match x.exponent with
  | .ofNat k => (x.mantissa * Nat.pow 2 k, 1)
  | .negSucc k => (x.mantissa, Nat.pow 2 (k + 1))

def Magnitude.round? (f : Format) (x : Magnitude) : Option Magnitude :=
  f.round? x.quotient.1 x.quotient.2

namespace Binary

/-- The double nearest to a quotient of whole numbers, or nothing when it is too large. -/
def ofQuotient? (num : Int) (den : Nat) : Option Binary :=
  (double.round? num.natAbs den).map (.finite (num < 0))

/-- A whole number with the sign of a finite number, in units of a power of two. -/
def units (negative : Bool) (size : Magnitude) (low : Int) : Int :=
  let n : Nat := size.mantissa * Nat.pow 2 (size.exponent - low).toNat
  if negative then -(n : Int) else n

/-- The double nearest to a multiple of a power of two; infinite when it is too large. -/
def ofUnits (n low : Int) : Binary :=
  let (num, den) := Magnitude.quotient ⟨n.natAbs, low⟩
  (ofQuotient? (if n < 0 then -(num : Int) else num) den).getD (.infinite (n < 0))

def negate : Binary → Binary
  | .nan => .nan
  | .infinite negative => .infinite !negative
  | .finite negative size => .finite (!negative) size

def plus : Binary → Binary → Binary
  | .nan, _ => .nan
  | _, .nan => .nan
  | .infinite a, .infinite b => if a = b then .infinite a else .nan
  | .infinite a, .finite .. => .infinite a
  | .finite .., .infinite b => .infinite b
  | .finite a x, .finite b y =>
      let low := min x.exponent y.exponent
      ofUnits (units a x low + units b y low) low

def times (n : Nat) : Binary → Binary
  | .finite negative x => ofUnits (n * units negative x x.exponent) x.exponent
  | x => x

/-- A number is below another one, which a NaN never is. -/
def isBelow : Binary → Binary → Bool
  | .infinite a, .infinite b => a && !b
  | .infinite a, .finite .. => a
  | .finite .., .infinite b => !b
  | .finite a x, .finite b y =>
      let low := min x.exponent y.exponent
      units a x low < units b y low
  | _, _ => false

end Binary

end RawSeries.Decimal
