import RawSeries.Decimal.Quantity
import RawSeries.Directory.Basic
import RawSeries.Row.Report
import RawSeries.Store.Table

/-!
Sweeps: the rows of some queries are printed, deleted or both, row by row. A row is written and
flushed whole before it is deleted. A sweep goes in steps, so that several can take turns.
-/

namespace RawSeries.Sweep

structure Options where
  delete : Bool
  quiet : Bool
  style : Style
  layout : Layout
  /-- The name of the sweep in progress reports. -/
  label : String
  /-- The seconds between progress reports. -/
  interval : Quantity
  /-- The readings of the clock, by number. -/
  clock : Nat → Quantity

/-- What a sweep does, in order. -/
inductive Event where
  | wrote (text : String)
  | flushed
  | deleted (key : Bytes)
  /-- The `tick`-th report of progress after `rows` rows. -/
  | progress (tick : Nat) (label : String) (rows : Nat)

def progressText (tick : Nat) (label : String) (rows : Nat) : String :=
  "Still (" ++ Numeral.natural tick ++ ") deleting " ++ label ++ " rows touched = " ++
    Numeral.natural rows

def Event.notice? : Event → Option String
  | .progress tick label rows => some (progressText tick label rows)
  | _ => none

def Event.text : Event → String
  | .wrote text => text
  | _ => ""

inductive Phase (γ : Type) where
  /-- Opens a cursor for the first of the queries. -/
  | opening (queries : List Query)
  /-- Fetches a page. -/
  | fetching (cursor : γ) (queries : List Query)
  /-- Handles the rows of a page. -/
  | handling (cursor : γ) (page : List Row) (queries : List Query)
  /-- Gives the cursor back, and goes on or fails. -/
  | closing (cursor : γ) (failure : Option Fault) (queries : List Query)
  | ended (result : Except Fault Nat)

structure State (γ : Type) where
  phase : Phase γ
  /-- The rows that were begun. -/
  rows : Nat
  ticks : Nat
  /-- The readings of the clock so far. -/
  readings : Nat
  nextTick : Quantity
  events : List Event

variable {σ γ : Type}

def start (o : Options) (queries : List Query) : State γ where
  phase := .opening queries
  rows := 0
  ticks := 0
  readings := 1
  nextTick := (o.clock 0).plus o.interval
  events := []

/-- Writes and flushes a row unless the sweep is quiet. -/
def print (d : Directory (Task σ)) (o : Options) (row : Row) (s : State γ) :
    Task σ (State γ) := do
  if o.quiet then return s
  let text ← row.report o.style d o.layout
  return { s with events := s.events ++ [.wrote text, .flushed] }

/-- Reports progress when it is time to. -/
def tick (o : Options) (s : State γ) : State γ :=
  if s.nextTick.isBelow (o.clock s.readings) then
    { s with
      ticks := s.ticks + 1
      nextTick := (o.clock (s.readings + 1)).plus o.interval
      readings := s.readings + 2
      events := s.events ++ [.progress (s.ticks + 1) o.label s.rows] }
  else { s with readings := s.readings + 1 }

/-- Handles one row. The state of the sweep is kept when the row cannot be printed or deleted. -/
def handle (t : Table σ γ) (d : Directory (Task σ)) (o : Options) (row : Row) (s : State γ) :
    StateM σ (State γ × Option Fault) := do
  let s := { s with rows := s.rows + 1 }
  match ← (print d o row s).run with
  | .error f => return (s, some f)
  | .ok s =>
      if o.delete then
        let s := tick o s
        match ← (t.delete row.key).run with
        | .error f => return (s, some f)
        | .ok () => return ({ s with events := s.events ++ [.deleted row.key] }, none)
      else return (s, none)

def step (t : Table σ γ) (d : Directory (Task σ)) (o : Options) (s : State γ) :
    StateM σ (State γ) :=
  match s.phase with
  | .opening [] => return { s with phase := .ended (.ok s.rows) }
  | .opening (q :: queries) => do
      match ← (t.openScan q).run with
      | .ok cursor => return { s with phase := .fetching cursor queries }
      | .error f => return { s with phase := .ended (.error f) }
  | .fetching cursor queries => do
      match ← t.fetch cursor with
      | (.ok (some page), cursor) => return { s with phase := .handling cursor page queries }
      | (.ok none, cursor) => return { s with phase := .closing cursor none queries }
      | (.error f, cursor) => return { s with phase := .closing cursor (some f) queries }
  | .handling cursor [] queries => return { s with phase := .fetching cursor queries }
  | .handling cursor (row :: page) queries => do
      match ← handle t d o row s with
      | (s, none) => return { s with phase := .handling cursor page queries }
      | (s, some f) => return { s with phase := .closing cursor (some f) queries }
  | .closing cursor none queries => do
      t.release cursor
      return { s with phase := .opening queries }
  | .closing cursor (some f) _ => do
      t.release cursor
      return { s with phase := .ended (.error f) }
  | .ended _ => return s

def State.result? (s : State γ) : Option (Except Fault Nat) :=
  match s.phase with
  | .ended result => some result
  | _ => none

/-- Takes at most a number of steps, until the end. -/
def run (t : Table σ γ) (d : Directory (Task σ)) (o : Options) :
    Nat → State γ → StateM σ (State γ)
  | 0, s => return s
  | steps + 1, s =>
      match s.phase with
      | .ended _ => return s
      | _ => do
          let s ← step t d o s
          run t d o steps s

/-- Steps that are enough for a number of queries when no scan has more than so many rows and so
many pages. -/
def enough (queries rows pages : Nat) : Nat :=
  queries * (rows + 2 * pages + 4) + 1

/-- The label of a sweep without one: the metric of its first query. -/
def labelOf (label : Option String) (queries : List Query) : String :=
  match label with
  | some text => if text = "" then (queries.head?.map Query.metric).getD "" else text
  | none => (queries.head?.map Query.metric).getD ""

end RawSeries.Sweep
