import RawSeries.Decimal.Shortest

namespace RawSeries.Decimal

/-- Reads the digits at the start of a text: their number, their count, and the rest. -/
def spanDigits : List Char → Nat → Nat → Nat × Nat × List Char
  | [], value, count => (value, count, [])
  | c :: rest, value, count =>
      if '0' ≤ c ∧ c ≤ '9' then spanDigits rest (10 * value + (c.toNat - 48)) (count + 1)
      else (value, count, c :: rest)

/-- The double nearest to a decimal; infinite when it is too large. -/
def Number.toDouble (negative : Bool) (x : Number) : Binary :=
  match x.round? double with
  | some size => .finite negative size
  | none => .infinite negative

end RawSeries.Decimal
