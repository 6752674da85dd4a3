import RawSeries.Fault

namespace RawSeries

/-- Looks up names and unique IDs in some monad; an unknown entry is a fault. -/
structure Directory (m : Type → Type) where
  /-- The name of a unique ID. -/
  name : UidKind → Bytes → m String
  /-- The unique ID of a name. -/
  id : UidKind → String → m Bytes
  /-- The metrics whose names start with a text, in order; at most `limit` of them. -/
  suggest : (start : String) → (limit : Option Nat) → m (List String)

namespace Directory

variable {m : Type → Type} [Monad m]

def tagNames (d : Directory m) (tag : Bytes × Bytes) : m (String × String) := do
  let key ← d.name .tagKey tag.1
  let value ← d.name .tagValue tag.2
  return (key, value)

end Directory

end RawSeries
