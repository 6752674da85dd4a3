import RawSeries.Command.Usage
import RawSeries.Gateway.Snapshot

/-!
The command over a snapshot of a gateway. The file of the snapshot is named in the environment
variable `RAW_SERIES_SNAPSHOT`, and is written again when rows were deleted.
-/

namespace RawSeries.Main

open Gateway

def contentOf? (path : String) : IO (Option Bytes) := do
  match ← (IO.FS.readBinFile path).toBaseIO with
  | .ok content => return some content.toList
  | .error _ => return none

/-- The paths of the files that some words may need. -/
def pathsOf (words : List String) (c : Command.Circumstances) : List String :=
  match Arguments.read words with
  | .ok a => a.config.toList ++ [Command.manifestOf a c]
  | .error _ => []

def load : List String → FileTree → IO FileTree
  | [], tree => return tree
  | path :: paths, tree => do
      match ← contentOf? path with
      | some content =>
          load paths (((tree.prepare path).1.append path content).toOption.getD tree)
      | none => load paths tree

/-- Makes the folders and writes the files that a run has changed. -/
def save (before after : FileTree) : IO Unit := do
  after.folders.forM fun p => IO.FS.createDirAll p.text
  after.files.forM fun f => do
    if before.content? f.1 != some f.2 then IO.FS.writeBinFile f.1.text ⟨f.2.toArray⟩

def runOver (path : String) (snapshot : Snapshot) (words : List String) : IO UInt32 := do
  let moment := Calendar.Moment.ofSeconds (snapshot.taken.truncated.toOption.getD 0)
  let c : Command.Circumstances :=
    ⟨fun _ => snapshot.taken, fun _ => .whole 0, Manifest.nameAt moment⟩
  let session := Session.start (.serving snapshot.tables [] 0) .blank
  let before ← load (pathsOf words c) .empty
  let (report, after) := (Command.run words c).run ⟨session, before⟩
  IO.print report.output
  report.lines.forM fun line => IO.eprintln line
  save before after.tree
  let left := { snapshot with tables := after.session.service.tables }
  if left.write != snapshot.write then IO.FS.writeFile path left.write
  return UInt32.ofNat report.ending.code

/-- Runs the command over the snapshot that the environment names. -/
def start (words : List String) : IO UInt32 := do
  let path := (← IO.getEnv "RAW_SERIES_SNAPSHOT").getD "snapshot.json"
  match (← contentOf? path).bind Utf8.decode? >>= Snapshot.read? with
  | some snapshot => runOver path snapshot words
  | none =>
      IO.eprintln ("Error: no snapshot in " ++ path)
      return 1

end RawSeries.Main

def main (words : List String) : IO UInt32 :=
  RawSeries.Main.start words
