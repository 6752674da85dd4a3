import RawSeries.Bytes.Basic

namespace RawSeries

/-- The bytes of a metric's unique ID, of a tag key's, of a tag value's, and of the base time. -/
structure Layout where
  metric : Nat
  tagKey : Nat
  tagValue : Nat
  time : Nat
deriving DecidableEq

namespace Layout

/-- Unique IDs of three bytes and a base time of four. -/
def standard : Layout := ⟨3, 3, 3, 4⟩

def head (l : Layout) : Nat :=
  l.metric + l.time

def tag (l : Layout) : Nat :=
  l.tagKey + l.tagValue

end Layout

end RawSeries
