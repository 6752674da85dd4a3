import RawSeries.Bytes.Base64
import RawSeries.Fault
import RawSeries.Json.Basic
import RawSeries.Row.Basic

/-!
Sets of cells: the JSON form in which a gateway hands out rows. Keys, column names and values are
in base64, and a column name is a family, a colon and a qualifier.
-/

namespace RawSeries.CellSet

def colon : UInt8 := 58

def encodeCell (column value : Bytes) : Json :=
  .object [("column", .text (Base64.encode column)), ("$", .text (Base64.encode value))]

/-- The cells of one row, by column name, as an object. -/
def encodeRow (key : Bytes) (cells : List (Bytes × Bytes)) : Json :=
  .object [("key", .text (Base64.encode key)),
    ("Cell", .list (cells.map fun c => encodeCell c.1 c.2))]

def encode (rows : List (Bytes × List (Bytes × Bytes))) : Json :=
  .object [("Row", .list (rows.map fun r => encodeRow r.1 r.2))]

/-- Values that count as nothing. -/
def isEmpty : Json → Bool
  | .null => true
  | .bool b => !b
  | .whole n => n == 0
  | .real (.finite _ size) => size.mantissa == 0
  | .real _ => false
  | .text s => s == .plain ""
  | .list items => items.isEmpty
  | .object fields => fields.isEmpty

/-- The bytes of base64 text; a value that counts as nothing is no bytes. -/
def bytesOf (j : Json) : Except Fault Bytes :=
  if isEmpty j then .ok []
  else
    match j with
    | .text (.plain s) => (Base64.decode s).mapError Fault.base64
    | .text (.ragged _) => .error (.base64 .notAscii)
    | _ => .error (.shape .notText)

/-- The items that a value holds: those of a list, the characters of a text, the names of an
object. -/
def itemsOf : Json → Except Fault (List Json)
  | .list items => .ok items
  | .text s => .ok (s.points.map fun c => .text (.ofPoints [c]))
  | .object fields => .ok (fields.map fun f => .text f.1)
  | _ => .error (.shape .notAList)

/-- The items under a name of an object, none when the name is missing. -/
def itemsUnder (name : WideText) : Json → Except Fault (List Json)
  | .object fields =>
      match fields.lookup name with
      | some j => itemsOf j
      | none => .ok []
  | _ => .error (.shape .notAnObject)

/-- A cell as a column, or nothing when it is not of the family that is asked for. -/
def readCell (family : Option Bytes) : Json → Except Fault (Option Column)
  | .object fields => do
      match fields.lookup (.plain "column") with
      | none => throw (.shape (.missingField "column"))
      | some name =>
          let (own, qualifier) := Bytes.cut colon (← bytesOf name)
          if family.any (· != own) then return none
          else
            let value ← bytesOf ((fields.lookup (.plain "$")).getD (.text ""))
            return some ⟨qualifier, value⟩
  | _ => throw (.shape .notACell)

def readRow (family : Option Bytes) (j : Json) : Except Fault Row := do
  let cells ← itemsUnder "Cell" j
  let columns ← cells.mapM (readCell family)
  match j.field? "key" with
  | none => throw (.shape (.missingField "key"))
  | some key => return ⟨← bytesOf key, columns.filterMap id⟩

/-- The rows of a set, with the columns of one family or of all. -/
def read (family : Option Bytes) (j : Json) : Except Fault (List Row) := do
  let rows ← itemsUnder "Row" j
  rows.mapM (readRow family)

end RawSeries.CellSet
