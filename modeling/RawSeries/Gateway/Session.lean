import RawSeries.Directory.Kind
import RawSeries.Gateway.Cursor
import RawSeries.Gateway.Service
import RawSeries.Store.Table

/-!
Sessions with a gateway: requests that are tried again, scanners, and what was seen of names and
unique IDs.
-/

namespace RawSeries.Gateway

structure Session where
  service : Service
  /-- The address of the gateway. -/
  base : Address
  /-- The session has been ended. -/
  ended : Bool
  /-- What has happened so far. -/
  events : List Event
  /-- Names that were seen, the latest first. -/
  names : List ((UidKind × Bytes) × String)
  /-- Unique IDs that were seen, the latest first. -/
  ids : List ((UidKind × String) × Bytes)

namespace Session

def start (service : Service) (base : Address) : Session :=
  ⟨service, base, false, [], [], []⟩

def note (events : List Event) : Task Session Unit :=
  modify fun s => { s with events := s.events ++ events }

def checkOpen : Task Session Unit := do
  if (← get).ended then throw .disconnected

/-- The address that a text writes, as seen from the gateway. -/
def locate (address : String) : Task Session Address := do
  match (← get).base.resolve address with
  | .ok asked => return asked
  | .error flaw => throw (.address flaw)

/-- Sends one request and takes its answer from the gateway. -/
def send (method address : String) (scan : Option ScanRequest) : Task Session Answer := do
  let asked ← locate address
  checkOpen
  let path := String.ofList asked.target
  note [.request method path scan]
  let s ← get
  let (answer, service) :=
    match scan with
    | some scan => s.service.post path scan
    | none => s.service.delete path
  set { s with service }
  match answer.check asked with
  | .ok () => return answer
  | .error f => throw f

/-- Sends a request until the gateway does not throttle it, with `left` attempts to go after
`before`. -/
def sendPatiently (method address : String) (scan : Option ScanRequest) :
    Nat → Nat → Task Session Answer
  | 0, _ => throw (.store (.retriesExhausted method address))
  | left + 1, before => do
      let answer ← send method address scan
      if answer.isThrottle then
        match answer.delay before with
        | .error f => throw f
        | .ok delay =>
            note (throttled method address answer.status delay)
            sendPatiently method address scan left (before + 1)
      else return answer

def demand (method address : String) (scan : Option ScanRequest) : Task Session Answer := do
  let answer ← sendPatiently method address scan attempts 0
  if answer.isSuccess then return answer
  else throw (.status answer.status (String.ofList (← locate address).text))

/-- The family of the columns when one column or family is asked for. -/
def familyOf : List Bytes → Option Bytes
  | [column] => some (Bytes.cut CellSet.colon column).1
  | _ => none

def openScanner (table : String) (scan : ScanRequest) (accept : Bytes → Bool) :
    Task Session Cursor := do
  let answer ← demand "POST" ("/" ++ table ++ "/scanner") (some scan)
  match answer.header? "Location" with
  | none => throw (.store (.noLocation table answer.status))
  | some location =>
      if location = "" then throw (.store (.noLocation table answer.status))
      else return .ofLocation location (familyOf scan.columns) accept

/-- The next rows of a cursor. At the end of the scan nothing is asked for. -/
def next (c : Cursor) : StateM Session (Except Fault (Option (List Row)) × Cursor) := do
  let s ← get
  match s.base.resolve c.location with
  | .error flaw =>
      let (rows, finished) := c.finish
      return if c.done then (.ok rows, finished) else (.error (.address flaw), c)
  | .ok asked =>
      if s.ended && !c.done then return (.error .disconnected, c)
      let path := String.ofList asked.target
      let turn := c.next asked (s.service.pages path)
      set { s with
        service := s.service.setPages path turn.left
        events := s.events ++ turn.events }
      return (turn.result, turn.cursor)

/-- Releases the scanner of a cursor, once. A refusal is only reported. -/
def release (c : Cursor) : Task Session Unit := do
  if c.closed then return
  let answer ← send "DELETE" c.location none
  if answer.status != 200 && answer.status != 404 then
    note [.report .warning ("Failed to release scanner " ++ c.location ++ ": HTTP " ++
      Numeral.integer answer.status)]

/-- Does some work and releases a cursor after it, whatever comes of the work. -/
def releasing {α : Type} (c : Cursor) (work : Task Session α) : Task Session α := do
  match ← Task.outcome work with
  | .ok a => do
      release c
      return a
  | .error f => do
      release c
      throw f

def finish : Task Session Unit :=
  modify fun s => { s with ended := true }

end Session

end RawSeries.Gateway
