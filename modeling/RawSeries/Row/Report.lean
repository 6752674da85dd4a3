import RawSeries.Column.Report
import RawSeries.Directory.Basic
import RawSeries.Row.Basic

namespace RawSeries

variable {m : Type → Type} [Monad m] [MonadExceptOf Fault m]

namespace Key

def splitOrFail (l : Layout) (key : Bytes) : m Key :=
  match split l key with
  | .ok k => pure k
  | .error flaw => throwThe Fault (.key flaw)

def tagNames (d : Directory m) (l : Layout) (key : Bytes) : m (List (String × String)) := do
  let k ← splitOrFail l key
  k.tags.mapM d.tagNames

end Key

structure Series where
  metric : String
  time : Nat
  tags : List (String × String)

def Series.ofKey (d : Directory m) (l : Layout) (key : Bytes) : m Series := do
  let k ← Key.splitOrFail l key
  let metric ← d.name .metric k.metric
  let tags ← Key.tagNames d l key
  return ⟨metric, k.time, tags⟩

namespace Row

def locate {α : Type} (key : Bytes) (action : m α) : m α :=
  tryCatchThe Fault action fun f => throwThe Fault (if f.isAboutData then .inKey key f else f)

def orFail {α : Type} : Except Fault α → m α
  | .ok a => pure a
  | .error f => throwThe Fault f

def linesText (lines : List String) : String :=
  String.join (lines.map (· ++ "\n"))

/-- The text of the tags in raw style; names that are not found leave the fault in its place. -/
def tagsText (d : Directory m) (l : Layout) (key : Bytes) : m String :=
  tryCatchThe Fault
    (do
      let tags ← Key.tagNames d l key
      return "\x7b" ++ String.intercalate ", " (tags.map fun t => t.1 ++ "=" ++ t.2) ++ "\x7d")
    fun f => if f.isAboutData then pure f.line else throwThe Fault f

/-- The text of a row in raw style: a header, and the columns indented below it. -/
def rawReport (d : Directory m) (l : Layout) (row : Row) : m String := do
  let metric ← locate row.key (d.name .metric (Key.metricOf l row.key))
  let time := Key.timeOf l row.key
  let date ← orFail ((Calendar.dateText time).mapError Fault.calendar)
  let tags ← tagsText d l row.key
  let header := Bytes.signedListing row.key ++ " " ++ metric ++ " " ++ Numeral.natural time ++
    " (" ++ date ++ ") " ++ tags
  let texts ← orFail (row.columns.mapM (Column.report .raw row.key time metric ""))
  return linesText (header :: (texts.filter (· ≠ "")).map ("  " ++ ·))

/-- The text of a row in loadable style: its points only. -/
def loadableReport (d : Directory m) (l : Layout) (row : Row) : m String := do
  let series ← locate row.key (Series.ofKey d l row.key)
  let tags := String.join (series.tags.map fun t => " " ++ t.1 ++ "=" ++ t.2)
  let texts ← orFail
    (row.columns.mapM (Column.report .loadable row.key series.time series.metric tags))
  return linesText (texts.filter (· ≠ ""))

/-- The text of a row, each line with its end. -/
def report (style : Style) (d : Directory m) (l : Layout) (row : Row) : m String :=
  match style with
  | .raw => rawReport d l row
  | .loadable => loadableReport d l row

end Row

end RawSeries
