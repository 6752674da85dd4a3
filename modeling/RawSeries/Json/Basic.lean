import RawSeries.Decimal.Notation
import RawSeries.Text.Half

namespace RawSeries

/-- A JSON value. The names of an object are distinct. -/
inductive Json where
  | null
  | bool (b : Bool)
  | whole (n : Int)
  | real (x : Decimal.Binary)
  | text (s : WideText)
  | list (items : List Json)
  | object (fields : List (WideText × Json))

namespace Json

/-- Sets a field: in its old place, or at the end. -/
def setField (fields : List (WideText × Json)) (name : WideText) (value : Json) :
    List (WideText × Json) :=
  match fields with
  | [] => [(name, value)]
  | (n, v) :: rest =>
      if n = name then (n, value) :: rest else (n, v) :: setField rest name value

def field? (name : WideText) : Json → Option Json
  | .object fields => fields.lookup name
  | _ => none

end Json

end RawSeries
