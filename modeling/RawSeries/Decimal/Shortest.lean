import RawSeries.Decimal.Rounding
import RawSeries.Text.Numeral

/-!
Decimals for binary floating point numbers: the shortest that reads back, and the nearest with a
given count of digits.
-/

namespace RawSeries.Decimal

/-- The decimal `coefficient * 10 ^ exponent`. -/
structure Number where
  coefficient : Nat
  exponent : Int
deriving DecidableEq

/-- The same decimal without zeros at the end of its coefficient. -/
def Number.trim (x : Number) : Number :=
  if x.coefficient ≠ 0 ∧ x.coefficient % 10 = 0 then
    Number.trim ⟨x.coefficient / 10, x.exponent + 1⟩
  else x
termination_by x.coefficient
decreasing_by omega

/-- The decimal exponent of the first digit of a positive quotient. -/
def leadingPlace (num den : Nat) : Int :=
  let size (n : Nat) := (Numeral.digits n).length
  if den ≤ num then (size (num / den) : Int) - 1
  else
    let shift := size den - size num
    if den ≤ num * Nat.pow 10 shift then -(shift : Int) else -(shift : Int) - 1

/-- The decimal with `count` digits nearest to a positive quotient, of two the even one. -/
def significant (count num den : Nat) : Number :=
  let e := leadingPlace num den - count + 1
  let (n, d) := shrink 10 num den e
  ⟨roundEven n d, e⟩

def Number.quotient (x : Number) : Nat × Nat :=
  match x.exponent with
  | .ofNat k => (x.coefficient * Nat.pow 10 k, 1)
  | .negSucc k => (x.coefficient, Nat.pow 10 (k + 1))

/-- The number of a format nearest to a decimal, or nothing when it is too large. Exponents far
outside every format are settled without the power of ten. -/
def Number.round? (f : Format) (x : Number) : Option Magnitude :=
  if x.coefficient = 0 then some ⟨0, f.lowest⟩
  else
    let top : Int := x.exponent + (Numeral.digits x.coefficient).length
    if 400 < top then none
    else if top < -400 then some ⟨0, f.lowest⟩
    else f.round? x.quotient.1 x.quotient.2

/-- Decimals that round to one number of a format: the bounds of their interval in units of a
quarter of its last place, the upper one at `4 * mantissa + 2`. -/
structure Interval where
  low : Nat
  high : Nat
  closed : Bool

/-- The interval of a positive number: half a place up, half a place down, but a quarter below a
power of two that has a smaller place beneath it. The ends belong to it for an even mantissa. -/
def Magnitude.interval (f : Format) (x : Magnitude) : Interval where
  low :=
    if x.mantissa = Nat.pow 2 (f.precision - 1) ∧ f.lowest < x.exponent then 4 * x.mantissa - 1
    else 4 * x.mantissa - 2
  high := 4 * x.mantissa + 2
  closed := x.mantissa % 2 == 0

/-- Whether a quotient, in quarters of the last place, lies in an interval. -/
def Interval.holds (i : Interval) (num den : Nat) : Bool :=
  if i.closed then i.low * den ≤ num && num ≤ i.high * den
  else i.low * den < num && num < i.high * den

/-- The nearer of the two decimals of a grid around a positive number that read back to it, of two
the even one. -/
def onGrid? (f : Format) (x : Magnitude) (e : Int) : Option Number :=
  let (num, den) := x.quotient
  let (n, d) := shrink 10 num den e
  let below := n / d
  let reads (c : Nat) : Bool :=
    let (a, b) := Number.quotient ⟨c, e⟩
    let (u, v) := shrink 2 a b (x.exponent - 2)
    (x.interval f).holds u v
  let upper := if 2 * (n % d) = d then below % 2 = 1 else d < 2 * (n % d)
  let first := if upper then below + 1 else below
  let second := if upper then below else below + 1
  if reads first then some ⟨first, e⟩
  else if reads second then some ⟨second, e⟩
  else none

/-- Tries `tries` digit counts from `count` on. -/
def shortestFrom (f : Format) (x : Magnitude) : Nat → Nat → Number
  | 0, count => significant count x.quotient.1 x.quotient.2
  | tries + 1, count =>
      match onGrid? f x (leadingPlace x.quotient.1 x.quotient.2 - count + 1) with
      | some number => number
      | none => shortestFrom f x tries (count + 1)

/-- The decimal with the fewest digits that reads back to a number, and of those the nearest to it.
Seventeen digits are enough for both formats. -/
def shortest (f : Format) (x : Magnitude) : Number :=
  if x.mantissa = 0 then ⟨0, 0⟩ else (shortestFrom f x 17 1).trim

end RawSeries.Decimal
