import RawSeries.Decimal.Quantity
import RawSeries.Gateway.Service
import RawSeries.Json.Reader
import RawSeries.Json.Writer

namespace RawSeries.Gateway

structure Snapshot where
  /-- Seconds since 1970. -/
  taken : Quantity
  tables : List (String × CellTable)

namespace Snapshot

def namedBytes? {α : Type} (read : Json → Option α) (field : WideText × Json) :
    Option (Bytes × α) := do
  let name ← field.1.plain? >>= Bytes.ofHex?
  let value ← read field.2
  return (name, value)

def bytes? : Json → Option Bytes
  | .text s => s.plain? >>= Bytes.ofHex?
  | _ => none

def cells? : Json → Option (List (Bytes × Bytes))
  | .object fields => fields.mapM (namedBytes? bytes?)
  | _ => none

def table? : Json → Option CellTable
  | .object fields => fields.mapM (namedBytes? cells?)
  | _ => none

def tables? : Json → Option (List (String × CellTable))
  | .object fields => fields.mapM fun f => do return (← f.1.plain?, ← table? f.2)
  | _ => none

def time? : Json → Option Quantity
  | .whole n => some (.whole n)
  | .real x => some (.real x)
  | _ => none

def read? (text : String) : Option Snapshot := do
  let j ← (Json.read text).toOption
  let taken ← j.field? "now" >>= time?
  let tables ← j.field? "tables" >>= tables?
  return ⟨taken, tables⟩

def tablesJson (tables : List (String × CellTable)) : Json :=
  let cell (c : Bytes × Bytes) := (.plain c.1.toHex, .text c.2.toHex)
  let row (r : CellRow) := (.plain r.1.toHex, .object (r.2.map cell))
  .object (tables.map fun t => (.plain t.1, .object (t.2.map row)))

def write (s : Snapshot) : String :=
  let taken : Json := match s.taken with
    | .whole n => .whole n
    | .real x => .real x
  (Json.object [("now", taken), ("tables", tablesJson s.tables)]).write

end Snapshot

def Service.tables : Service → List (String × CellTable)
  | .prepared .. => []
  | .serving tables _ _ => tables

end RawSeries.Gateway
