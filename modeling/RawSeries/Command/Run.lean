import RawSeries.Command.Arguments
import RawSeries.Command.Workspace
import RawSeries.Directory.Remote
import RawSeries.Manifest.Coverage
import RawSeries.Manifest.Line
import RawSeries.Purge
import RawSeries.Store.Remote
import RawSeries.Text.Terminal

/-!
Runs of the command: rows are printed and perhaps deleted, or the rows of many metrics are purged.
-/

namespace RawSeries.Command

inductive Ending where
  | done
  | help
  | misuse (complaint : Arguments.Complaint)
  | badArguments (flaw : Arguments.Flaw)
  | badSettings (flaws : List (String × Settings.Flaw))
  | failure (fault : Fault)

/-- Faults that are reported in one line: those that are explained, statuses of a gateway, and
answers that break the rules. -/
def isReported (f : Fault) : Bool :=
  f.kind.isExplained || f.kind == .status || f.kind == .protocol || f.kind == .packing

namespace Ending

def code : Ending → Nat
  | .done => 0
  | .help => 0
  | .misuse .noWords => 1
  | .misuse _ => 2
  | .badArguments _ => 2
  | .badSettings _ => 1
  | .failure _ => 1

def error? : Ending → Option String
  | .badArguments flaw => some ("Error: " ++ Terminal.without flaw.message)
  | .badSettings _ => some "Error: Bad configuration"
  | .failure fault =>
      if isReported fault then some ("Error: " ++ Terminal.without fault.line) else none
  | _ => none

/-- The fault that ended the run without a report. -/
def escaped? : Ending → Option Fault
  | .failure fault => if isReported fault then none else some fault
  | _ => none

def complaint? : Ending → Option String
  | .misuse complaint => some complaint.message
  | _ => none

end Ending

structure Report where
  ending : Ending
  /-- The settings, once the gateway is used. -/
  settings : Option Settings
  output : String
  /-- The summary of a purge. -/
  summary : Option String

structure Circumstances where
  /-- The readings of the present, by number. -/
  now : Nat → Quantity
  /-- The readings of the clock in seconds, by number. -/
  clock : Nat → Quantity
  /-- The name of a new manifest. -/
  manifest : String

def tableOf (s : Settings) : RemoteTable :=
  ⟨s.dataTable, s.family, s.scanBatch⟩

def directoryOf (s : Settings) : Directory (Task Gateway.Session) :=
  RemoteDirectory.directory ⟨s.uidTable, s.scanBatch⟩

def workers : Nat := 16

/-- The properties of the file that is named in the arguments. -/
def propertiesOf (t : FileTree) : Option String → Except Ending (List (String × String))
  | none => .ok []
  | some path =>
      match t.entry? path with
      | .ok (.file content) =>
          match Properties.ofBytes? content with
          | some entries => .ok entries
          | none => .error (.failure .unreadableFile)
      | .ok .folder => .error (.failure (.file .isFolder path))
      | .error flaw => .error (.failure (.file flaw path))

def checkConfig (t : FileTree) : Option String → Except Ending Unit
  | none => .ok ()
  | some path =>
      match t.entry? path with
      | .ok (.file _) => .ok ()
      | .ok .folder => .error (.badArguments (.isFolder "--config" path))
      | .error .zero => .error (.failure (.file .zero path))
      | .error _ => .error (.badArguments (.noFile "--config" path))

def prepare (words : List String) (t : FileTree) : Except Ending (Arguments × Settings) := do
  let a ← (Arguments.read words).mapError Ending.badArguments
  if a.help then throw .help
  checkConfig t a.config
  match a.complaint? with
  | some complaint => throw (.misuse complaint)
  | none =>
      let properties ← propertiesOf t a.config
      let settings ← (Settings.load properties a.options).mapError Ending.badSettings
      return (a, settings)

/-- How rows are swept at the request of some arguments. -/
def sweepOptions (s : Settings) (a : Arguments) (c : Circumstances) (queries : List Query) :
    Sweep.Options where
  delete := a.delete
  quiet := false
  style := if a.loadable || a.delete then .loadable else .raw
  layout := s.layout
  label := Sweep.labelOf none queries
  interval := .whole 60
  clock := c.clock

/-- Sweeps the rows of some queries; also gives the text that is written. -/
def sweep (s : Settings) (a : Arguments) (c : Circumstances) (queries : List Query) :
    StateM Gateway.Session (Except Fault Nat × String) := do
  let size := (← get).service.size
  let o := sweepOptions s a c queries
  let sweep ← Sweep.run (tableOf s).table (directoryOf s) o (Sweep.enough queries.length size size)
    (Sweep.start o queries)
  return (sweep.result?.getD (.ok sweep.rows), String.join (sweep.events.map Sweep.Event.text))

/-- Reads the words as queries and sweeps their rows. -/
def dump (s : Settings) (a : Arguments) (c : Circumstances) :
    StateM Gateway.Session (Except Fault Nat × String) := do
  match ← (Query.read (directoryOf s) s.layout (c.now 0) a.words).run with
  | .ok queries => sweep s a c queries
  | .error f => return (.error f, "")

def completed (path : String) : Task Workspace (List String) := do
  match (Coverage.completed path ((← get).tree.file? path)).1 with
  | .ok names => return Coverage.texts names
  | .error f => throw f

/-- The world of a purge: the gateway answers at once, and only records take time to write. -/
def worldOf (s : Settings) (path : String) : Purge.World Workspace Gateway.Cursor where
  table := Workspace.gateway.table (tableOf s).table
  directory := Workspace.gateway.directory (directoryOf s)
  append r := Workspace.append path (Utf8.encode (Manifest.line r))
  completed := completed path
  waits := Purge.Worker.isRecording

def purgeOptions (s : Settings) (c : Circumstances) (stop opening : String) : Purge.Options where
  stop
  opening
  layout := s.layout
  workers
  now := c.now
  clock := c.clock

/-- Steps that are enough for a purge behind a gateway of some size. -/
def enough (size : Nat) : Nat :=
  (size + 1) * (Sweep.enough 1 size size + 8)

/-- The line on what a purge has done, with marks for styles. -/
def summaryLine (s : Purge.Summary) (path : String) : String :=
  "[bold]summary[/]: [green]processed_ok[/]=" ++ Numeral.natural s.finished ++
    "  [red]processed_failed[/]=" ++ Numeral.natural s.failed ++ "  [yellow]skipped[/]=" ++
    Numeral.natural s.skipped ++ "  (metrics=" ++ Numeral.natural s.metrics ++ ", rows touched=" ++
    Numeral.natural s.touched ++ ", manifest=" ++ path ++ ")"

/-- Purges the rows of metrics, with a manifest. Gives the line on what was done. -/
def purge (s : Settings) (c : Circumstances) (path stop opening : String) :
    Task Workspace String := do
  Workspace.prepare path
  let size := (← get).session.service.size
  let (summary, _) ← Purge.run (worldOf s path) (purgeOptions s c stop opening) (enough size)
  match Markup.plain (summaryLine summary path) with
  | .ok line => return line
  | .error flaw => throw (.markup flaw)

def manifestOf (a : Arguments) (c : Circumstances) : String :=
  match a.manifest with
  | some path => if path = "" then c.manifest else path
  | none => c.manifest

def endingOf {α : Type} : Except Fault α → Ending
  | .ok _ => .done
  | .error f => .failure f

def perform (a : Arguments) (s : Settings) (c : Circumstances) : StateM Workspace Report := do
  match a.purge, a.words with
  | true, [stop, opening] =>
      let result ← (purge s c (manifestOf a c) stop opening).run
      return ⟨endingOf result, some s, "", result.toOption⟩
  | _, _ =>
      let (result, output) ← Workspace.gateway.lift (dump s a c)
      return ⟨endingOf result, some s, output, none⟩

def run (words : List String) (c : Circumstances) : StateM Workspace Report := do
  let w ← get
  match prepare words w.tree with
  | .error ending => return ⟨ending, none, "", none⟩
  | .ok (a, s) =>
      match Gateway.Address.readBase s.restUrl with
      | .error flaw => return ⟨.failure (.address flaw), some s, "", none⟩
      | .ok base =>
          set { w with session := .start w.session.service base }
          perform a s c

end RawSeries.Command
