import RawSeries.Bytes.Percent
import RawSeries.Bytes.Utf8
import RawSeries.Gateway.Answer
import RawSeries.Gateway.CellSet
import RawSeries.Text.Blank

namespace RawSeries.Gateway

abbrev CellRow := Bytes × List (Bytes × Bytes)

/-- A table of cells. Keys are distinct, and so are the columns of a row. -/
abbrev CellTable := List CellRow

namespace CellTable

/-- A column is asked for by its name or by its family. -/
def wants (columns : List Bytes) (column : Bytes) : Bool :=
  columns.contains column || columns.contains (Bytes.cut CellSet.colon column).1

/-- A key from `start` on, and before `stop` unless `stop` is empty. -/
def inRange (start stop key : Bytes) : Bool :=
  !Bytes.before key start && (stop.isEmpty || Bytes.before key stop)

/-- Pairs in the order of their first parts. -/
def inOrder {α : Type} (pairs : List (Bytes × α)) : List (Bytes × α) :=
  pairs.mergeSort fun a b => !Bytes.before b.1 a.1

/-- The cells of a range, in the order of keys and columns: key, column and value. -/
def cells (t : CellTable) (s : ScanRequest) : List (Bytes × Bytes × Bytes) :=
  (inOrder (t.filter fun row => inRange s.start s.stop row.1)).flatMap fun row =>
    ((inOrder row.2).filter fun c => wants s.columns c.1).map fun c => (row.1, c.1, c.2)

def grouped : List (Bytes × Bytes × Bytes) → List CellRow
  | [] => []
  | (key, column, value) :: rest =>
      match grouped rest with
      | (other, cells) :: rows =>
          if other = key then (key, (column, value) :: cells) :: rows
          else (key, [(column, value)]) :: (other, cells) :: rows
      | [] => [(key, [(column, value)])]

/-- Pages of `size + 1` cells, the last one as far as it goes. -/
def pages (size : Nat) : List (Bytes × Bytes × Bytes) → List (List CellRow)
  | [] => []
  | c :: rest => grouped (c :: rest.take size) :: pages size (rest.drop size)
termination_by cs => cs.length
decreasing_by rw [List.length_drop, List.length_cons]; omega

def answers (t : CellTable) (s : ScanRequest) : List Answer :=
  (pages (s.batch - 1) (t.cells s)).map fun page => ⟨200, [], .value (CellSet.encode page)⟩

end CellTable

inductive Service where
  /-- Prepared answers by method, each used once. -/
  | prepared (posts gets deletes : List Answer)
  /-- Tables by name, the answers that are left of scanners by path, and the scanners so far. -/
  | serving (tables : List (String × CellTable)) (scanners : List (String × List Answer))
      (opened : Nat)

namespace Service

def segments (path : String) : List String :=
  (Text.splitOn '/' path.toList).map String.ofList

def nameOf (segment : String) : String :=
  Utf8.decodeLossy (Percent.decode segment)

/-- The address that prepared gateways give to scanners. -/
def preparedLocation : String := "http://gw/tsdb/scanner/1"

def post (path : String) (s : ScanRequest) : Service → Answer × Service
  | .prepared [] gets deletes =>
      (⟨201, [("Location", preparedLocation)], .text ""⟩, .prepared [] gets deletes)
  | .prepared (a :: posts) gets deletes => (a, .prepared posts gets deletes)
  | .serving tables scanners opened =>
      match segments path with
      | ["", table, "scanner"] =>
          match tables.lookup (nameOf table) with
          | some cells =>
              let own := "/" ++ table ++ "/scanner/" ++ Numeral.natural (opened + 1)
              (⟨201, [("Location", "http://gw" ++ own)], .text ""⟩,
                .serving tables ((own, cells.answers s) :: scanners) (opened + 1))
          | none => (.ofStatus 404, .serving tables scanners opened)
      | _ => (.ofStatus 404, .serving tables scanners opened)

def rowCount (a : Answer) : Nat :=
  match a.read >>= CellSet.itemsUnder "Row" with
  | .ok rows => rows.length
  | .error _ => 0

def pages (path : String) : Service → List Answer
  | .prepared _ gets _ => gets
  | .serving _ scanners _ => (scanners.lookup path).getD []

def setPages (path : String) (left : List Answer) : Service → Service
  | .prepared posts _ deletes => .prepared posts left deletes
  | .serving tables scanners opened =>
      .serving tables (scanners.map fun s => if s.1 = path then (path, left) else s) opened

/-- Answers to a deletion: of a scanner, or of a row. -/
def delete (path : String) : Service → Answer × Service
  | .prepared posts gets [] => (.ofStatus 200, .prepared posts gets [])
  | .prepared posts gets (a :: deletes) => (a, .prepared posts gets deletes)
  | .serving tables scanners opened =>
      match segments path with
      | ["", _, "scanner", _] =>
          (.ofStatus 200, .serving tables (scanners.filter fun s => s.1 != path) opened)
      | ["", table, key] =>
          let name := nameOf table
          match tables.lookup name with
          | some _ =>
              let without (t : String × CellTable) :=
                if t.1 = name then (t.1, t.2.filter fun row => row.1 != Percent.decode key) else t
              (.ofStatus 200, .serving (tables.map without) scanners opened)
          | none => (.ofStatus 404, .serving tables scanners opened)
      | _ => (.ofStatus 404, .serving tables scanners opened)

/-- A number that the pages of a scan and the rows in them do not exceed. -/
def size : Service → Nat
  | .prepared _ gets _ => gets.foldl (fun n a => n + rowCount a + 1) 0
  | .serving tables _ _ =>
      tables.foldl (fun n t => t.2.foldl (fun n row => n + row.2.length + 1) n) 0

end Service

end RawSeries.Gateway
