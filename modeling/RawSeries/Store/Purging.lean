import RawSeries.Directory.Table
import RawSeries.Purge
import RawSeries.Store.Memory

namespace RawSeries.Memory

def sweep (d : Directory (Task Memory)) (o : Sweep.Options) (queries : List Query) :
    StateM Memory (Sweep.State Cursor) := do
  let m ← get
  let rows := m.rows.length
  Sweep.run table d o (Sweep.enough queries.length rows rows) (Sweep.start o queries)

def world (uids : UidTable) (done : List String) : Purge.World Memory Cursor where
  table := table
  directory := uids.directory
  append := append
  completed := pure done
  waits := Purge.Worker.isFetching

def enough (uids : UidTable) (m : Memory) : Nat :=
  (uids.metrics.length + 1) * (Sweep.enough 1 m.rows.length m.rows.length + 8)

def purge (uids : UidTable) (done : List String) (o : Purge.Options) :
    Task Memory (Purge.Summary × List Purge.Notice) := do
  let m ← get
  Purge.run (world uids done) o (enough uids m)

end RawSeries.Memory
