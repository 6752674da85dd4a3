import RawSeries.Manifest.Record
import RawSeries.Store.Table

/-!
A table of rows and a log of records held in memory, both of which can be told to refuse work.
-/

namespace RawSeries

/-- The state of the memory. Rows stand in the order of their keys, each key once. -/
structure Memory where
  rows : List Row
  /-- The rows of a page. With less than none of them, cursors have no pages. -/
  pageSize : Int
  /-- Keys whose deletion is refused. -/
  heldKeys : List Bytes
  /-- Metrics whose scans are refused. -/
  heldMetrics : List String
  /-- Records that are refused, by metric and status. -/
  heldRecords : List (String × Status)
  /-- The deleted keys, in the order of their deletion. -/
  deleted : List Bytes
  /-- How often each cursor was given back, in the order of opening. -/
  closes : List Nat
  records : List Record

namespace Memory

/-- Puts a row in its place; a row with the same key gives way. -/
def insertRow (row : Row) : List Row → List Row
  | [] => [row]
  | other :: rest =>
      if other.key = row.key then row :: rest
      else if Bytes.before row.key other.key then row :: other :: rest
      else other :: insertRow row rest

/-- A memory with some rows, of which later ones replace earlier ones with the same key. -/
def ofRows (rows : List Row) (pageSize : Int) : Memory where
  rows := rows.foldl (fun table row => insertRow row table) []
  pageSize
  heldKeys := []
  heldMetrics := []
  heldRecords := []
  deleted := []
  closes := []
  records := []

def keys (m : Memory) : List Bytes :=
  m.rows.map Row.key

def selectedFrom (q : Query) (first stop : Bytes) : List Row → Except NumberFlaw (List Row)
  | [] => .ok []
  | row :: rest => do
      let taken ← q.selects first stop row.key
      let others ← selectedFrom q first stop rest
      return if taken then row :: others else others

def selected (q : Query) (rows : List Row) : Except NumberFlaw (List Row) := do
  selectedFrom q (← q.startRow) (← q.stopRow) rows

/-- Rows in pages of `size + 1`, the last one as far as it goes. -/
def pagesOf {α : Type} (size : Nat) : List α → List (List α)
  | [] => []
  | row :: rest => (row :: rest.take size) :: pagesOf size (rest.drop size)
termination_by rows => rows.length
decreasing_by rw [List.length_drop, List.length_cons]; omega

def paged? {α : Type} (size : Int) (rows : List α) : Except NumberFlaw (List (List α)) :=
  match size with
  | .ofNat 0 => .error .noStep
  | .ofNat (n + 1) => .ok (pagesOf n rows)
  | .negSucc _ => .ok []

/-- A cursor: its number in the order of opening, and the pages that are left. -/
structure Cursor where
  number : Nat
  pages : List (List Row)

def openScan (q : Query) : Task Memory Cursor := do
  let m ← get
  if m.heldMetrics.contains q.metric then throw (.store (.openRefused q.metric))
  match (selected q m.rows).bind (paged? m.pageSize) with
  | .error flaw => throw (.number flaw)
  | .ok pages =>
      set { m with closes := m.closes ++ [0] }
      return ⟨m.closes.length, pages⟩

def fetch (c : Cursor) : StateM Memory (Except Fault (Option (List Row)) × Cursor) :=
  match c.pages with
  | [] => return (.ok none, c)
  | page :: pages => return (.ok (some page), { c with pages })

def release (c : Cursor) : StateM Memory Unit :=
  modify fun m => { m with closes := m.closes.modify c.number (· + 1) }

def delete (key : Bytes) : Task Memory Unit := do
  let m ← get
  if m.heldKeys.contains key then throw (.store (.deleteRefused key))
  set { m with rows := m.rows.filter (·.key != key), deleted := m.deleted ++ [key] }

def append (r : Record) : Task Memory Unit := do
  let m ← get
  if m.heldRecords.contains (r.metric, r.status) then
    throw (.recordRefused r.metric r.status.word)
  set { m with records := m.records ++ [r] }

def table : Table Memory Cursor where
  openScan
  fetch
  release
  delete

end Memory

end RawSeries
