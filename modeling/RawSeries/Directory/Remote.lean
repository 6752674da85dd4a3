import RawSeries.Bytes.Latin
import RawSeries.Bytes.Successor
import RawSeries.Directory.Basic
import RawSeries.Gateway.Session

namespace RawSeries

/-- A table of unique IDs behind a gateway, and the cells of a page. -/
structure RemoteDirectory where
  table : String
  batch : Nat

namespace RemoteDirectory

open Gateway

def nameFamily : String := "name"

def idFamily : String := "id"

def column (family : String) (kind : UidKind) : Bytes :=
  Bytes.ascii (family ++ ":" ++ kind.word)

def after (key : Bytes) : Bytes := key ++ [0]

/-- The value of the column of a kind in the row with a key among some rows. -/
def valueIn (key qualifier : Bytes) (rows : List Row) : Option Bytes :=
  rows.findSome? fun row =>
    if row.key = key then
      (row.columns.find? fun c => c.qualifier == qualifier).map Column.value
    else none

/-- Looks through the rows of a cursor, page by page. -/
def search (key qualifier : Bytes) : Nat → Cursor → Task Session (Option Bytes)
  | 0, _ => return none
  | steps + 1, c => do
      match ← (Session.next c : StateM Session _) with
      | (.error f, _) => throw f
      | (.ok none, _) => return none
      | (.ok (some rows), c) =>
          match valueIn key qualifier rows with
          | some value => return some value
          | none => search key qualifier steps c

/-- Calls for rows that are enough for a cursor: each uses up an answer, but for the last two. -/
def enough (c : Cursor) : Task Session Nat := do
  let s ← get
  match s.base.resolve c.location with
  | .ok asked => return (s.service.pages (String.ofList asked.target)).length + 2
  | .error _ => return 2

def cell (d : RemoteDirectory) (key : Bytes) (family : String) (kind : UidKind) :
    Task Session (Option Bytes) := do
  let c ← Session.openScanner d.table ⟨key, after key, 1, [column family kind]⟩ fun _ => true
  Session.releasing c (do search key (Bytes.ascii kind.word) (← enough c) c)

def rememberName (kind : UidKind) (uid : Bytes) (name : String) : Task Session Unit :=
  modify fun s => { s with names := ((kind, uid), name) :: s.names }

def rememberId (kind : UidKind) (name : String) (uid : Bytes) : Task Session Unit :=
  modify fun s => { s with ids := ((kind, name), uid) :: s.ids }

def name (d : RemoteDirectory) (kind : UidKind) (uid : Bytes) : Task Session String := do
  match (← get).names.lookup (kind, uid) with
  | some name => return name
  | none =>
      match ← d.cell uid nameFamily kind with
      | none => throw (.unknownUid kind uid)
      | some value =>
          let name := Bytes.toLatin value
          rememberName kind uid name
          rememberId kind name uid
          return name

def keyOf (name : String) : Task Session Bytes :=
  match Bytes.ofLatin? name with
  | some key => return key
  | none => throw (.unwritableName name)

def id (d : RemoteDirectory) (kind : UidKind) (name : String) : Task Session Bytes := do
  match (← get).ids.lookup (kind, name) with
  | some uid => return uid
  | none =>
      match ← d.cell (← keyOf name) idFamily kind with
      | none => throw (.unknownName kind name)
      | some uid =>
          rememberId kind name uid
          rememberName kind uid name
          return uid

def wantsMore (limit : Option Nat) (found : Nat) : Bool :=
  match limit with
  | none => true
  | some n => found < n

/-- Takes names from the rows of a page while more are wanted, and keeps their unique IDs. -/
def takeNames (kind : UidKind) (limit : Option Nat) :
    List Row → List String → Task Session (List String)
  | [], found => return found
  | row :: rows, found =>
      match row.columns with
      | [] => takeNames kind limit rows found
      | c :: _ => do
          let name := Bytes.toLatin row.key
          rememberId kind name c.value
          let found := found ++ [name]
          if wantsMore limit found.length then takeNames kind limit rows found else return found

/-- Takes names from page after page while more are wanted. -/
def collect (kind : UidKind) (limit : Option Nat) :
    Nat → Cursor → List String → Task Session (List String)
  | 0, _, found => return found
  | steps + 1, c, found => do
      if wantsMore limit found.length then
        match ← (Session.next c : StateM Session _) with
        | (.error f, _) => throw f
        | (.ok none, _) => return found
        | (.ok (some rows), c) => do
            let found ← takeNames kind limit rows found
            collect kind limit steps c found
      else return found

/-- The keys of names that start with some bytes; all names from `!` to `~` when there are none. -/
def range (start : Bytes) : Bytes × Bytes :=
  if start.isEmpty then ([33], [126]) else (start, Bytes.successor start)

/-- The names of a kind that start with a text, in the order of their keys. -/
def suggest (d : RemoteDirectory) (kind : UidKind) (start : String) (limit : Option Nat) :
    Task Session (List String) := do
  let (first, stop) := range (← keyOf start)
  let c ← Session.openScanner d.table ⟨first, stop, d.batch, [column idFamily kind]⟩ fun _ => true
  let found ← Session.releasing c (do collect kind limit (← enough c) c [])
  Session.note [.report .debug ("Prefix " ++ Quoted.text start ++ " matched " ++
    Numeral.natural found.length ++ " " ++ kind.word)]
  return found

def directory (d : RemoteDirectory) : Directory (Task Session) where
  name := d.name
  id := d.id
  suggest := d.suggest .metric

end RemoteDirectory

end RawSeries
