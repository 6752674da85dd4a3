import RawSeries.Row.Layout
import RawSeries.Text.Numeral
import RawSeries.Text.Quoted

/-!
Row keys: the unique ID of a metric, a base time in seconds, and tags as pairs of unique IDs.
-/

namespace RawSeries

structure Key where
  metric : Bytes
  time : Nat
  tags : List (Bytes × Bytes)
deriving DecidableEq

namespace Key

/-- Why bytes are no row key. -/
inductive Flaw where
  | tooShort (key : Bytes)
  /-- The bytes after the base time are no whole number of tags. -/
  | unevenTags (tail width : Nat) (key : Bytes)
  /-- Tags that take no bytes. -/
  | noTagWidth
deriving DecidableEq

def Flaw.message : Flaw → String
  | .tooShort key =>
      "Row key too short (" ++ Numeral.natural key.length ++ " bytes): " ++ Quoted.bytes key
  | .unevenTags tail width key =>
      "Row key tag section is " ++ Numeral.natural tail ++ " bytes, not a multiple of " ++
        Numeral.natural width ++ ": " ++ Quoted.bytes key
  | .noTagWidth => "integer division or modulo by zero"

/-- The unique ID at the start of a key; shorter when the key is. -/
def metricOf (l : Layout) (key : Bytes) : Bytes :=
  key.take l.metric

/-- The base time of a key; bytes that are missing shorten the number. -/
def timeOf (l : Layout) (key : Bytes) : Nat :=
  Bytes.value ((key.drop l.metric).take l.time)

/-- The tags that a byte string holds one after the other, the last one as far as it goes. -/
def tagsFrom (l : Layout) : Bytes → List (Bytes × Bytes)
  | [] => []
  | x :: rest =>
      let b := x :: rest
      (b.take l.tagKey, (b.drop l.tagKey).take l.tagValue) :: tagsFrom l (rest.drop (l.tag - 1))
termination_by b => b.length
decreasing_by rw [List.length_drop, List.length_cons]; omega

def tagsOf (l : Layout) (key : Bytes) : List (Bytes × Bytes) :=
  tagsFrom l (key.drop l.head)

/-- Splits a key whose tags have their full widths. -/
def split (l : Layout) (key : Bytes) : Except Flaw Key :=
  if key.length < l.head then .error (.tooShort key)
  else if l.tag = 0 then .error .noTagWidth
  else
    let tail := key.length - l.head
    if tail % l.tag ≠ 0 then .error (.unevenTags tail l.tag key)
    else .ok ⟨metricOf l key, timeOf l key, tagsOf l key⟩

def join (l : Layout) (k : Key) : Bytes :=
  k.metric ++ Bytes.encode l.time k.time ++ k.tags.flatMap fun t => t.1 ++ t.2

/-- A key whose parts have the widths of a layout. -/
def Fits (l : Layout) (k : Key) : Prop :=
  k.metric.length = l.metric ∧ k.time < Nat.pow 256 l.time ∧
    ∀ t ∈ k.tags, t.1.length = l.tagKey ∧ t.2.length = l.tagValue

end Key

end RawSeries
