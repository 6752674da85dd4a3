import RawSeries.Gateway.Answer
import RawSeries.Gateway.CellSet

/-!
Cursors over a scanner of a gateway. Pages are cut by cells, so that a row may go on in the next
page; the last row of a page is held back until the next page or the end has come.
-/

namespace RawSeries.Gateway

structure Cursor where
  /-- The address of the scanner. -/
  location : String
  /-- The family of the columns that count, or all. -/
  family : Option Bytes
  /-- The keys of the rows that are handed out. -/
  accept : Bytes → Bool
  /-- The row that may go on. -/
  pending : Option Row
  done : Bool
  closed : Bool

namespace Cursor

def ofLocation (location : String) (family : Option Bytes) (accept : Bytes → Bool) : Cursor :=
  ⟨location, family, accept, none, false, false⟩

def keep (c : Cursor) (rows : List Row) : List Row :=
  rows.filter fun row => c.accept row.key

/-- The rows of a page after the row that may go on in it. -/
def join (pending : Option Row) (rows : List Row) : List Row :=
  match pending, rows with
  | none, rows => rows
  | some p, [] => [p]
  | some p, row :: rest => if row.key = p.key then p.merge row :: rest else p :: row :: rest

/-- Takes in a page: the rows to hand out, and the cursor that holds back the last one. -/
def absorb (c : Cursor) (rows : List Row) : List Row × Cursor :=
  let joined := join c.pending rows
  (c.keep joined.dropLast, { c with pending := joined.getLast? })

/-- Hands out the row that was held back, at the end of the scan. -/
def finish (c : Cursor) : Option (List Row) × Cursor :=
  match c.pending with
  | none => (none, c)
  | some row =>
      let out := c.keep [row]
      (if out.isEmpty then none else some out, { c with pending := none })

/-- What a call for rows comes to: its result, the cursor, the answers that are left, and what
happened. -/
structure Turn where
  result : Except Fault (Option (List Row))
  cursor : Cursor
  left : List Answer
  events : List Event

def Turn.after (events : List Event) (t : Turn) : Turn :=
  { t with events := events ++ t.events }

def exhaust (c : Cursor) (left : List Answer) (events : List Event) : Turn :=
  let (rows, c) := finish { c with done := true }
  ⟨.ok rows, c, left, events⟩

/-- Asks for pages at the address of the scanner until there are rows to hand out, or the scan ends.
Where no answer is left the scan ends. `before` throttles came in a row. -/
def await (asked : Address) (c : Cursor) (before : Nat) : List Answer → Turn
  | [] => exhaust c [] [.request "GET" (String.ofList asked.target) none]
  | a :: left =>
      let sent := [Event.request "GET" (String.ofList asked.target) none]
      match a.check asked with
      | .error f => ⟨.error f, c, left, sent⟩
      | .ok () =>
      if a.isThrottle then
        match a.delay before with
        | .error f => ⟨.error f, c, left, sent⟩
        | .ok delay =>
            let events := sent ++ throttled "GET" c.location a.status delay
            if before + 1 < attempts then (await asked c (before + 1) left).after events
            else ⟨.error (.store (.retriesExhausted "GET" c.location)), c, left, events⟩
      else if a.status = 204 then exhaust c left sent
      else if !a.isSuccess then
        ⟨.error (.status a.status (String.ofList asked.text)), c, left, sent⟩
      else
        match a.read >>= CellSet.read c.family with
        | .error f => ⟨.error f, c, left, sent⟩
        | .ok rows =>
            let (out, c) := c.absorb rows
            if out.isEmpty then (await asked c 0 left).after sent
            else ⟨.ok (some out), c, left, sent⟩

/-- The next rows, or nothing at the end of the scan. -/
def next (asked : Address) (c : Cursor) (answers : List Answer) : Turn :=
  if c.done then
    let (rows, c) := c.finish
    ⟨.ok rows, c, answers, []⟩
  else c.await asked 0 answers

end Cursor

end RawSeries.Gateway
