import RawSeries.Bytes.Utf8
import RawSeries.Fault
import RawSeries.Json.Reader
import RawSeries.Text.Blank

/-!
Coverage: the metrics whose last record in a manifest says that they are done. Lines that are no
records are passed over with a warning.
-/

namespace RawSeries.Coverage

/-- A number as a multiple of a power of two; truth counts as one. -/
def dyadic? : Json → Option (Int × Int)
  | .bool b => some (if b then 1 else 0, 0)
  | .whole n => some (n, 0)
  | .real (.finite negative size) =>
      some (if negative then -(size.mantissa : Int) else size.mantissa, size.exponent)
  | _ => none

/-- Values that name the same metric: equal texts, equal numbers, or the same other scalar. -/
def sameName (a b : Json) : Bool :=
  match dyadic? a, dyadic? b with
  | some (m, e), some (n, g) =>
      let low := min e g
      m * Nat.pow 2 (e - low).toNat == n * Nat.pow 2 (g - low).toNat
  | none, none =>
      match a, b with
      | .null, .null => true
      | .text s, .text t => s == t
      | .real .nan, .real .nan => true
      | .real (.infinite x), .real (.infinite y) => x == y
      | _, _ => false
  | _, _ => false

/-- Lists and objects name no metric. -/
def isName : Json → Bool
  | .list _ => false
  | .object _ => false
  | _ => true

def setStatus (latest : List (Json × Json)) (name status : Json) : List (Json × Json) :=
  match latest with
  | [] => [(name, status)]
  | (n, s) :: rest =>
      if sameName n name then (n, status) :: rest else (n, s) :: setStatus rest name status

/-- The metric and the status of a line; nothing when the line is no record. A number with too many
digits is a fault, and JSON that is nested too deeply. -/
def entry? (line : String) : Except Fault (Option (Json × Json)) :=
  match Json.read line with
  | .error .malformed => .ok none
  | .error .tooDeep => .error .depth
  | .error (.tooManyDigits count) => .error (.number (.tooManyDigits count))
  | .ok j =>
      match j.field? "metric", j.field? "status" with
      | some name, some status => .ok (if isName name then some (name, status) else none)
      | _, _ => .ok none

/-- What was read so far: the last status of each metric, and the numbers of unreadable lines. -/
structure Reading where
  latest : List (Json × Json)
  unreadable : List Nat

/-- Reads the line with a number. Blank lines count for nothing. -/
def readLine (r : Reading) (number : Nat) (line : String) : Except Fault Reading :=
  let text := Text.strip line
  if text = "" then .ok r
  else
    match entry? text with
    | .error f => .error f
    | .ok (some (name, status)) => .ok { r with latest := setStatus r.latest name status }
    | .ok none => .ok { r with unreadable := r.unreadable ++ [number] }

/-- Reads lines from a number on, up to the first fault. -/
def readLines (r : Reading) (number : Nat) : List String → Reading × Option Fault
  | [] => (r, none)
  | line :: rest =>
      match readLine r number line with
      | .error f => (r, some f)
      | .ok r => readLines r (number + 1) rest

/-- The lines of characters whose end is known to have come: without the end of a file, what
follows the last line feed waits, and a carriage return may belong to a line feed after it. -/
def endedLines (cs : List Char) : List String :=
  let ended := (cs.reverse.dropWhile fun c => c != '\n' && c != '\r').reverse
  let settled :=
    if cs.getLast? = some '\r' then
      (ended.dropLast.reverse.dropWhile fun c => c != '\n' && c != '\r').reverse
    else ended
  (Text.linesFrom [] settled).map String.ofList

def pieceSize : Nat := 8192

/-- The bytes before the piece in which a place lies; all of them when it lies behind the last. -/
def piecesBefore (file : Bytes) (place : Nat) : Bytes :=
  if place < file.length then file.take (place / pieceSize * pieceSize) else file

/-- Reads a manifest: what was read, and the fault that ended it. A file that is not UTF-8 is read
up to the last whole line before the piece that shows it. -/
def ofBytes (file : Bytes) : Reading × Option Fault :=
  match Utf8.faultAt? file with
  | none => readLines ⟨[], []⟩ 1 ((Text.linesFrom [] (Utf8.leading file)).map String.ofList)
  | some place =>
      match readLines ⟨[], []⟩ 1 (endedLines (Utf8.leading (piecesBefore file place))) with
      | (r, some f) => (r, some f)
      | (r, none) => (r, some .unreadableFile)

def Reading.done (r : Reading) : List Json :=
  (r.latest.filter fun e => match e.2 with | .text s => s == .plain "done" | _ => false).map (·.1)

def warning (path : String) (number : Nat) : String :=
  "Skipping unreadable manifest line " ++ Numeral.natural number ++ " in " ++ path

/-- The metrics that a manifest reports as done, and the warnings on the way. A file that is missing
reports none. -/
def completed (path : String) (file : Option Bytes) : Except Fault (List Json) × List String :=
  match file with
  | none => (.ok [], [])
  | some bytes =>
      let (r, failure) := ofBytes bytes
      (match failure with
        | none => .ok r.done
        | some f => .error f, r.unreadable.map (warning path))

def texts (names : List Json) : List String :=
  names.filterMap fun j => match j with | .text s => s.plain? | _ => none

end RawSeries.Coverage
