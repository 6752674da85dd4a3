import RawSeries.Column.Decoded
import RawSeries.Fault

namespace RawSeries

/-- Carries the flaw of a point over to the faults. -/
def ofPoint {α : Type} : Except Point.Flaw α → Except Fault α :=
  Except.mapError Fault.point

def dateOf (timestamp : Int) : Except Fault String :=
  (Calendar.dateText timestamp).mapError Fault.calendar

/-- The raw line of a point: qualifier, value, offset, `l` or `f`, timestamp and date. -/
def Cell.rawLine (base : Int) (c : Cell) : Except Fault String := do
  let timestamp ← ofPoint (c.timestamp base)
  let offset ← ofPoint (c.shownOffset base)
  let letter := if ← ofPoint c.isWhole then "l" else "f"
  let date ← dateOf timestamp
  return Bytes.signedListing c.qualifier ++ "\t" ++ Bytes.signedListing c.value ++ "\t" ++
    Numeral.natural offset ++ "\t" ++ letter ++ "\t" ++ Numeral.integer timestamp ++ "\t(" ++
    date ++ ")"

def Cell.importLine (metric tags : String) (base : Int) (c : Cell) : Except Fault String := do
  let timestamp ← ofPoint (c.timestamp base)
  let value ← ofPoint c.valueText
  return metric ++ " " ++ Numeral.integer timestamp ++ " " ++ value ++ tags

def Note.rawLine (base : Int) (n : Note) : Except Fault String := do
  let timestamp := n.timestamp base
  let date ← dateOf timestamp
  return Bytes.signedListing n.qualifier ++ "\t" ++ Bytes.signedListing n.value ++ "\t" ++
    Numeral.natural (n.offset / 1000) ++ "\t" ++ n.text ++ "\t" ++ Numeral.integer timestamp ++
    "\t(" ++ date ++ ")"

inductive Style where
  /-- Everything that is stored, for reading. -/
  | raw
  /-- The points only, as lines that can be loaded again. -/
  | loadable
deriving DecidableEq

namespace Column

def rawLines (base : Int) (c : Column) : Decoded → Except Fault (List String)
  | .note note => return [← note.rawLine base]
  | .foreign => return [Bytes.signedListing c.value ++ "\t[Not a data point]"]
  | .point cell => return [← cell.rawLine base]
  | .compacted points => do
      let lines ← points.cells.mapM fun cell => cell.rawLine base
      let head := Bytes.signedListing c.qualifier ++ "\t" ++ Bytes.signedListing c.value ++ " = " ++
        Numeral.natural points.cells.length ++ " values:"
      return head :: lines.map ("    " ++ ·)
  | .brokenPoint flaw => throw (.point flaw)
  | .brokenCompaction flaw => throw (.compaction flaw)

/-- The lines of a column in loadable style: one for each point. -/
def loadableLines (metric tags : String) (base : Int) : Decoded → Except Fault (List String)
  | .note _ => return []
  | .foreign => return []
  | .point cell => return [← cell.importLine metric tags base]
  | .compacted points => points.cells.mapM fun cell => cell.importLine metric tags base
  | .brokenPoint flaw => throw (.point flaw)
  | .brokenCompaction flaw => throw (.compaction flaw)

/-- Names the row and the column in faults of stored data. -/
def locate {α : Type} (key : Bytes) (c : Column) : Except Fault α → Except Fault α
  | .ok a => .ok a
  | .error f => .error (if f.isAboutData then .inColumn key c f else f)

/-- The text of a column of the row with a key; empty when nothing is to be shown. -/
def report (style : Style) (key : Bytes) (base : Int) (metric tags : String) (c : Column) :
    Except Fault String :=
  match c.decode? with
  | none => .error (.point .missingByte)
  | some decoded => do
      let lines ← locate key c (match style with
        | .raw => rawLines base c decoded
        | .loadable => loadableLines metric tags base decoded)
      return String.intercalate "\n" lines

end Column

end RawSeries
