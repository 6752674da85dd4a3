import RawSeries.Bytes.Utf8
import RawSeries.Bytes.Wide
import RawSeries.Fault
import RawSeries.Gateway.Address
import RawSeries.Json.Reader
import RawSeries.Json.Writer
import RawSeries.Level
import RawSeries.Text.Blank
import RawSeries.Text.Digit

namespace RawSeries.Gateway

/-- The body of an answer: a JSON value, or text that may be none. -/
inductive Body where
  | value (j : Json)
  | text (s : String)

/-- The text of a body that is sent in UTF-8. A mark of the byte order at its start counts for
nothing, and bytes that look like JSON in wider units are read as such. -/
def textOf? (s : String) : Option String :=
  let bytes := Utf8.encode s
  match Wide.form? bytes with
  | some form => (Wide.decode? form bytes).map String.ofList
  | none =>
      match s.toList with
      | c :: rest => some (if c.toNat = 65279 then String.ofList rest else s)
      | [] => some s

def Body.read : Body → Except Fault Json
  | .value j => .ok j
  | .text s =>
      match (textOf? s).map Json.read with
      | none => .error .garbled
      | some (.ok j) => .ok j
      | some (.error .malformed) => .error .body
      | some (.error .tooDeep) => .error .depth
      | some (.error (.tooManyDigits count)) => .error (.number (.tooManyDigits count))

def Body.sent : Body → String
  | .value j => j.write
  | .text s => s

structure Answer where
  status : Int
  headers : List (String × String)
  body : Body

namespace Answer

def ofStatus (status : Int) : Answer := ⟨status, [], .text ""⟩

def lower (s : String) : List Char := s.toList.map Char.toLower

/-- A header by its name in any case; several with one name are joined. -/
def header? (a : Answer) (name : String) : Option String :=
  match (a.headers.filter fun h => lower h.1 == lower name).map (·.2) with
  | [] => none
  | values => some (String.intercalate ", " values)

/-- The gateway asks to try again later. -/
def isThrottle (a : Answer) : Bool :=
  a.status == 429 || a.status == 503

/-- Statuses that send the reader to another address. -/
def isMove (a : Answer) : Bool :=
  [301, 302, 303, 307, 308].contains a.status

/-- The first text in the headers that is not in ASCII. -/
def unwritable? (a : Answer) : Option String :=
  (a.headers.flatMap fun h => [h.1, h.2]).find? fun s => !s.toList.all Label.isAscii

def isPacked (a : Answer) : Bool :=
  (Text.splitOn ',' ((a.header? "Content-Encoding").getD "").toList).any fun coding =>
    (Text.stripChars coding).map Char.toLower == "gzip".toList

/-- The JSON value of the body. Packed data starts with two bytes that no text has, so that a body
of text that is said to be packed is empty at best. -/
def read (a : Answer) : Except Fault Json :=
  if a.isPacked then (Body.text "").read else a.body.read

/-- The rules for an answer to a request at an address: its headers are in ASCII, its body is packed
if it is said to be, the address can be asked, and the address that the answer moves to can be
one. -/
def check (asked : Address) (a : Answer) : Except Fault Unit :=
  match a.unwritable? with
  | some text => .error (.header text)
  | none =>
      if a.isPacked && 1 < (Utf8.encode a.body.sent).length then .error .notPacked
      else if !asked.isSendable then .error (.noScheme (String.ofList asked.text))
      else if !a.isMove then .ok ()
      else
        match (a.header? "Location").map Address.read with
        | none => .ok ()
        | some (.error flaw) => .error (.move flaw)
        | some (.ok target) => (asked.checkMove target).mapError Fault.address

def isSuccess (a : Answer) : Bool :=
  200 ≤ a.status && a.status ≤ 299

def wait (seconds : Nat) : Decimal.Binary :=
  Decimal.Number.toDouble false ⟨seconds, 0⟩

/-- The seconds to wait after a throttle: what the gateway asks for in digits, one at least, else
1, 2, 4 after the first, second, third throttle in a row. -/
def delay (a : Answer) (before : Nat) : Except Fault Decimal.Binary :=
  let asked := (a.header? "Retry-After").getD ""
  let cs := asked.toList
  if cs ≠ [] ∧ cs.all Text.isDigit then
    if cs.all Text.isDecimal then
      .ok (wait (max 1 (cs.foldl (fun n c => 10 * n + (Text.digitValue? c).getD 0) 0)))
    else .error (.number (.notDecimal asked))
  else .ok (wait (Nat.pow 2 before))

end Answer

/-- What a scanner is asked for: a range of keys, the cells of a page, and columns or families. -/
structure ScanRequest where
  start : Bytes
  stop : Bytes
  batch : Nat
  columns : List Bytes

inductive Event where
  | request (method path : String) (scan : Option ScanRequest)
  | pause (delay : Decimal.Binary)
  | report (level : Level) (text : String)

def secondsText (x : Decimal.Binary) : String :=
  match x.truncate? with
  | some n => Numeral.integer n ++ ".0"
  | none => x.text

/-- The report on a throttle and the pause after it. -/
def throttled (method address : String) (status : Int) (delay : Decimal.Binary) : List Event :=
  [.report .debug (method ++ " " ++ address ++ " -> " ++ Numeral.integer status ++
      ", retrying in " ++ secondsText delay ++ "s"),
    .pause delay]

def attempts : Nat := 3

end RawSeries.Gateway
