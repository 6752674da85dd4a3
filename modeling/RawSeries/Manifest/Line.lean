import RawSeries.Bytes.Utf8
import RawSeries.Calendar.Civil
import RawSeries.Json.Writer
import RawSeries.Manifest.Record

namespace RawSeries.Manifest

def numberJson : Quantity → Json
  | .whole n => .whole n
  | .real x => .real x

def textJson : Option String → Json
  | some s => .text s
  | none => .null

def recordJson (r : Record) : Json :=
  .object [("metric", .text r.metric), ("status", .text r.status.word),
    ("rows", numberJson r.rows), ("elapsed_ms", numberJson r.elapsed),
    ("error", textJson r.error), ("updated_at", numberJson r.updated)]

/-- The fields of a record in their order, and the values of those that need not be given. -/
def fields : List (WideText × Option Json) :=
  [("metric", none), ("status", some (.text Status.started.word)), ("rows", some (.whole 0)),
    ("elapsed_ms", some (.whole 0)), ("error", some .null), ("updated_at", some (.real .zero))]

/-- The record with some fields, each of them a field of records. -/
def ofFields? (given : List (WideText × Json)) : Option Json :=
  if given.all fun f => (fields.lookup f.1).isSome then
    (fields.mapM fun f => ((given.lookup f.1).or f.2).map fun value => (f.1, value)).map .object
  else none

def lineOf (record : Json) : String :=
  record.write ++ "\n"

/-- The line of a record, with its end. -/
def line (r : Record) : String :=
  lineOf (recordJson r)

def append (file : Bytes) (r : Record) : Bytes :=
  file ++ Utf8.encode (line r)

/-- The name of a manifest that is begun at a moment. -/
def nameAt (t : Calendar.Moment) : String :=
  let two := Numeral.padded 2
  "batch_delete_" ++ Numeral.padded 4 t.date.year ++ "_" ++ two t.date.month ++ "_" ++
    two t.date.day ++ "_" ++ two t.hour ++ ":" ++ two t.minute ++ ":" ++ two t.second ++ ".jsonl"

end RawSeries.Manifest
