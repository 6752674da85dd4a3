import RawSeries.Column.Compacted
import RawSeries.Bytes.Latin

namespace RawSeries

/-- A column that holds a note about a moment. A byte that marks it stands before the offset. -/
structure Note where
  qualifier : Bytes
  value : Bytes
deriving DecidableEq

namespace Note

def inMillis (n : Note) : Bool :=
  5 ≤ n.qualifier.length

/-- The offset in milliseconds; a bare mark has none. -/
def offset (n : Note) : Nat :=
  let body := n.qualifier.drop 1
  if 4 ≤ body.length then Bytes.value (body.take 4) / 64 % 4194304
  else if 2 ≤ body.length then Bytes.value (body.take 2) / 16 * 1000
  else 0

def timestamp (base : Int) (n : Note) : Int :=
  if n.inMillis then base * 1000 + n.offset else base + (n.offset / 1000 : Nat)

def text (n : Note) : String :=
  Bytes.toLatin n.value

end Note

inductive Decoded where
  | point (cell : Cell)
  | compacted (points : Compacted)
  | note (note : Note)
  /-- A column of odd width that is no note. -/
  | foreign
  /-- The qualifier of one point with a value that does not fit it. -/
  | brokenPoint (flaw : Point.Flaw)
  | brokenCompaction (flaw : Compacted.Flaw)
deriving DecidableEq

namespace Column

/-- The point of a column with the qualifier of one point. A legacy float is shortened first.
Nothing when the qualifier ends before its flags, as two bytes with the millisecond nibble do. -/
def decodePoint? (c : Column) : Option Decoded :=
  (Qualifier.flags? c.qualifier).map fun flags =>
    match Point.shortenFloat flags c.value with
    | .error flaw => .brokenPoint flaw
    | .ok value =>
        if value.length = Qualifier.valueLength flags then .point ⟨c.qualifier, value⟩
        else .brokenPoint (.width value.length (Qualifier.valueLength flags))

/-- Tells columns apart by the length and the first byte of the qualifier: an odd length is a note
or foreign, two bytes or four with the millisecond nibble are one point, all else is compacted. -/
def decode? (c : Column) : Option Decoded :=
  let q := c.qualifier
  if q.length % 2 = 1 then
    some (if q.head? = some 1 then .note ⟨q, c.value⟩ else .foreign)
  else if q.length = 2 ∨ (q.length = 4 ∧ Qualifier.millis q) then c.decodePoint?
  else
    match Compacted.split c with
    | .ok points => some (.compacted points)
    | .error flaw => some (.brokenCompaction flaw)

end Column

end RawSeries
