import RawSeries.Bytes.Percent
import RawSeries.Bytes.Utf8
import RawSeries.Gateway.Session

namespace RawSeries

/-- The percent-encoded path segment of a row key. The gateway reads the segment as UTF-8, and takes
a star at its end for a pattern, so that only other keys that are UTF-8 address their row. -/
def pathSegment (key : Bytes) : Except Store.Flaw String :=
  if (Utf8.decode? key).isNone then .error (.keyNotText key)
  else if key.getLast? = some 42 then .error (.keyEndsInStar key)
  else .ok (Percent.encode key)

/-- A table of rows behind a gateway: its name, the family of its columns, and the cells of a
page. -/
structure RemoteTable where
  name : String
  family : String
  batch : Nat

namespace RemoteTable

open Gateway

def openScan (t : RemoteTable) (q : Query) : Task Session Cursor := do
  match q.startRow, q.stopRow with
  | .ok start, .ok stop =>
      Session.note [.report .debug
        ("Scanning " ++ t.name ++ " from " ++ start.toHex ++ " to " ++ stop.toHex)]
      Session.openScanner t.name ⟨start, stop, t.batch, [Utf8.encode t.family]⟩ q.accepts
  | .error flaw, _ => throw (.number flaw)
  | _, .error flaw => throw (.number flaw)

/-- Deletes the row with a key. No request is sent for a key that has no path segment. -/
def delete (t : RemoteTable) (key : Bytes) : Task Session Unit := do
  match pathSegment key with
  | .error flaw => throw (.store flaw)
  | .ok segment => discard (Session.demand "DELETE" ("/" ++ t.name ++ "/" ++ segment) none)

def table (t : RemoteTable) : Table Session Cursor where
  openScan := t.openScan
  fetch := Session.next
  release c := discard (Session.release c).run
  delete := t.delete

end RemoteTable

end RawSeries
