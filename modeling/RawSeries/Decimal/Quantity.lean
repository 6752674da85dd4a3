import RawSeries.Decimal.Rounding

namespace RawSeries

/-- A whole number or a double. -/
inductive Quantity where
  | whole (n : Int)
  | real (x : Decimal.Binary)
deriving DecidableEq

namespace Quantity

open Decimal

def nearest : Quantity → Binary
  | whole n => .ofUnits n 0
  | real x => x

/-- The exact number as a multiple of a power of two. -/
def exact : Quantity → Binary
  | whole n => .finite (n < 0) ⟨n.natAbs, 0⟩
  | real x => x

def negate : Quantity → Quantity
  | whole n => whole (-n)
  | real x => real x.negate

/-- The sum of two numbers: exact for whole ones, and else in double precision. -/
def plus : Quantity → Quantity → Quantity
  | whole m, whole n => whole (m + n)
  | x, y => real (x.nearest.plus y.nearest)

def times (n : Nat) : Quantity → Quantity
  | whole m => whole (n * m)
  | real x => real (x.times n)

/-- A number is below another one. No rounding comes before the comparison. -/
def isBelow (x y : Quantity) : Bool := x.exact.isBelow y.exact

def wholePart? : Quantity → Option Int
  | whole n => some n
  | real x => x.truncate?

end Quantity

end RawSeries
