import RawSeries.Fault
import RawSeries.Query.Basic
import RawSeries.Row.Basic

namespace RawSeries

/-- Work on a state that can fail; the state that it leaves counts in either case. -/
abbrev Task (σ : Type) := ExceptT Fault (StateM σ)

/-- What comes of some work, without failing. -/
def Task.outcome {σ α : Type} (work : Task σ α) : Task σ (Except Fault α) :=
  tryCatch (Except.ok <$> work) fun f => pure (.error f)

/-- A table of rows in a state `σ`, with cursors `γ`. -/
structure Table (σ γ : Type) where
  /-- Opens a cursor over the rows of a query. -/
  openScan : Query → Task σ γ
  /-- The next page, or nothing at the end of the scan. -/
  fetch : γ → StateM σ (Except Fault (Option (List Row)) × γ)
  /-- Gives a cursor back. -/
  release : γ → StateM σ Unit
  /-- Deletes the row with a key. -/
  delete : Bytes → Task σ Unit

end RawSeries
