import RawSeries.Manifest.Record
import RawSeries.Query.Grammar
import RawSeries.Sweep

/-!
Purges: the rows of all metrics with names that start alike are deleted up to an end. Several
workers take metrics from one queue, and each keeps records of its progress. A purge goes in steps
of single workers, in any order.
-/

namespace RawSeries.Purge

structure Options where
  /-- The end of the range, as text. -/
  stop : String
  /-- What the names of the metrics start with. -/
  opening : String
  layout : Layout
  workers : Nat
  /-- The readings of the present, by number. -/
  now : Nat → Quantity
  /-- The readings of the clock in seconds, by number. -/
  clock : Nat → Quantity

inductive Notice where
  | found (metrics : Nat) (opening : String) (skipped : Nat)
  | claimed (worker : Nat) (metric : String) (number total : Nat)
  /-- The `tick`-th report of progress on a metric after `rows` rows. -/
  | swept (tick : Nat) (metric : String) (rows : Nat)
  | failed (worker : Nat) (metric : String)
  | finished (worker : Nat) (metric : String) (rows elapsed : Nat)
  | died (worker : Nat) (fault : Fault)

namespace Notice

def isError : Notice → Bool
  | .failed .. => true
  | .died .. => true
  | _ => false

/-- The report on a finished metric, with the text of the milliseconds that it took. -/
def finishedText (worker : Nat) (metric : String) (rows : Nat) (elapsed : String) : String :=
  "[" ++ Numeral.natural worker ++ "] Done batch delete for metric: " ++ metric ++ ". Touched " ++
    Numeral.natural rows ++ " rows in " ++ elapsed ++ "ms"

def text : Notice → String
  | .found metrics opening skipped =>
      "Found " ++ Numeral.natural metrics ++ " metrics matching " ++ Quoted.text opening ++ ", " ++
        Numeral.natural skipped ++ " already done"
  | .claimed worker metric number total =>
      "[" ++ Numeral.natural worker ++ "] Issue batch delete for metric: " ++ metric ++ "... (" ++
        Numeral.natural number ++ "/" ++ Numeral.natural total ++ ")"
  | .swept tick metric rows => Sweep.progressText tick metric rows
  | .failed worker metric =>
      "[" ++ Numeral.natural worker ++ "] Batch delete failed for metric: " ++ metric
  | .finished worker metric rows elapsed =>
      finishedText worker metric rows (Numeral.natural elapsed)
  | .died worker fault =>
      "Worker [" ++ Numeral.natural worker ++ "] died with: " ++ fault.message

def ofEvent? : Sweep.Event → Option Notice
  | .progress tick label rows => some (.swept tick label rows)
  | _ => none

end Notice

inductive Worker (γ : Type) where
  /-- Takes a metric from the queue. -/
  | idle
  /-- Records that the metric is begun. -/
  | announcing (metric : String)
  /-- Makes the query of the metric. -/
  | reading (metric : String) (begun : Quantity)
  /-- Deletes the rows of the metric. -/
  | sweeping (metric : String) (begun : Quantity) (sweep : Sweep.State γ)
  /-- Records that the metric is done. -/
  | confirming (metric : String) (rows elapsed : Nat)
  /-- Records that the metric failed. -/
  | rejecting (metric : String) (fault : Fault) (elapsed : Nat)
  /-- Has found the queue empty. -/
  | stopped
  /-- Could not write a record. -/
  | dead (fault : Fault)

/-- The world of a purge: the table, the directory, and the log of records. -/
structure World (σ γ : Type) where
  table : Table σ γ
  directory : Directory (Task σ)
  /-- Adds a record. -/
  append : Record → Task σ Unit
  /-- The metrics that an earlier purge has finished. -/
  completed : Task σ (List String)
  /-- A worker has to wait before its next step. -/
  waits : Worker γ → Bool

structure Board where
  queue : List String
  /-- The metrics that were in the queue at first. -/
  total : Nat
  claimed : Nat
  finished : Nat
  failed : Nat
  /-- The rows of the finished metrics. -/
  touched : Nat
  /-- The readings of the present so far. -/
  looks : Nat
  /-- The readings of the clock so far. -/
  readings : Nat
  notices : List Notice

structure State (γ : Type) where
  board : Board
  workers : List (Worker γ)

variable {σ γ : Type}

/-- The board after one more reading of the present. -/
def Board.looked (b : Board) : Board :=
  { b with looks := b.looks + 1 }

/-- The clock for a sweep that has read it a number of times. It goes on with the readings that the
purge has not yet made. -/
def clockFrom (o : Options) (b : Board) (readings : Nat) : Nat → Quantity :=
  fun n => o.clock (b.readings + (n - readings))

/-- How the rows of a metric are swept: deleted, and not printed. -/
def sweepOptions (o : Options) (metric : String) (clock : Nat → Quantity) : Sweep.Options where
  delete := true
  quiet := true
  style := .raw
  layout := o.layout
  label := metric
  interval := .whole 60
  clock

/-- The board after a step of a sweep, which may have read the clock and reported progress. -/
def Board.after (b : Board) (sweep sweep' : Sweep.State γ) : Board :=
  { b with
    readings := b.readings + (sweep'.readings - sweep.readings)
    notices := b.notices ++
      (sweep'.events.drop sweep.events.length).filterMap Notice.ofEvent? }

def words (o : Options) (metric : String) : List String :=
  ["0", o.stop, Aggregator.sum.word, metric]

/-- The milliseconds from an earlier reading of the clock to the next one. -/
def elapsed (o : Options) (b : Board) (begun : Quantity) : Nat :=
  ((((o.clock b.readings).plus begun.negate).times 1000).wholePart?.getD 0).toNat

def record (o : Options) (b : Board) (metric : String) (status : Status) (rows elapsed : Nat)
    (error : Option String) : Record :=
  ⟨metric, status, .whole rows, .whole elapsed, error, o.now b.looks⟩

def fail (o : Options) (id : Nat) (metric : String) (begun : Quantity) (f : Fault) (b : Board) :
    Worker γ × Board :=
  (.rejecting metric f (elapsed o b begun),
    { b with
      failed := b.failed + 1
      readings := b.readings + 1
      notices := b.notices ++ [.failed id metric] })

def stepWorker (w : World σ γ) (o : Options) (id : Nat) (b : Board) :
    Worker γ → StateM σ (Worker γ × Board)
  | .idle =>
      match b.queue with
      | [] => return (.stopped, b)
      | metric :: queue =>
          let claimed := b.claimed + 1
          let notices := b.notices ++ [.claimed id metric claimed b.total]
          return (.announcing metric, { b with queue, claimed, notices })
  | .announcing metric => do
      match ← (w.append (record o b metric .started 0 0 none)).run with
      | .ok () =>
          return (.reading metric (o.clock b.readings),
            { b.looked with readings := b.readings + 1 })
      | .error f => return (.dead f, b.looked)
  | .reading metric begun => do
      match ← (Query.read w.directory o.layout (o.now b.looks) (words o metric)).run with
      | .ok queries =>
          let sweep := Sweep.start (sweepOptions o metric (clockFrom o b 0)) queries
          return (.sweeping metric begun sweep,
            { b.looked with readings := b.readings + sweep.readings })
      | .error f => return fail o id metric begun f b.looked
  | .sweeping metric begun sweep => do
      match sweep.result? with
      | some (.ok rows) =>
          let spent := elapsed o b begun
          return (.confirming metric rows spent,
            { b with
              finished := b.finished + 1
              touched := b.touched + rows
              readings := b.readings + 1
              notices := b.notices ++ [.finished id metric rows spent] })
      | some (.error f) => return fail o id metric begun f b
      | none =>
          let sweep' ← Sweep.step w.table w.directory
            (sweepOptions o metric (clockFrom o b sweep.readings)) sweep
          return (.sweeping metric begun sweep', b.after sweep sweep')
  | .confirming metric rows spent => do
      match ← (w.append (record o b metric .done rows spent none)).run with
      | .ok () => return (.idle, b.looked)
      | .error f => return (.dead f, b.looked)
  | .rejecting metric fault spent => do
      match ← (w.append (record o b metric .failed 0 spent (some fault.line))).run with
      | .ok () => return (.idle, b.looked)
      | .error f => return (.dead f, b.looked)
  | .stopped => return (.stopped, b)
  | .dead f => return (.dead f, b)

/-- One step of a purge, by the worker with a number. -/
def step (w : World σ γ) (o : Options) (id : Nat) (s : State γ) : StateM σ (State γ) :=
  match s.workers[id]? with
  | none => return s
  | some worker => do
      let (worker, board) ← stepWorker w o id s.board worker
      return ⟨board, s.workers.set id worker⟩

/-- The steps of workers in the order of a schedule. -/
def follow (w : World σ γ) (o : Options) : List Nat → State γ → StateM σ (State γ)
  | [], s => return s
  | id :: schedule, s => do
      let s ← step w o id s
      follow w o schedule s

def Worker.isOver : Worker γ → Bool
  | .stopped => true
  | .dead _ => true
  | _ => false

def Worker.isFetching : Worker γ → Bool
  | .sweeping _ _ sweep =>
      match sweep.phase with
      | .fetching .. => true
      | _ => false
  | _ => false

def State.isOver (s : State γ) : Bool :=
  s.workers.all Worker.isOver

def Worker.isRecording : Worker γ → Bool
  | .announcing _ => true
  | .confirming .. => true
  | .rejecting .. => true
  | _ => false

/-- The turn of a worker: it works until it has to wait, or is over. -/
def turn (w : World σ γ) (o : Options) (id : Nat) : Nat → State γ → StateM σ (State γ)
  | 0, s => return s
  | steps + 1, s => do
      let s ← step w o id s
      match s.workers[id]? with
      | none => return s
      | some worker => if worker.isOver || w.waits worker then return s else turn w o id steps s

def round (w : World σ γ) (o : Options) (steps : Nat) : List Nat → State γ → StateM σ (State γ)
  | [], s => return s
  | id :: ids, s => do
      let s ← turn w o id steps s
      round w o steps ids s

/-- Rounds of turns, until the purge is over. -/
def rounds (w : World σ γ) (o : Options) (steps : Nat) : Nat → State γ → StateM σ (State γ)
  | 0, s => return s
  | left + 1, s =>
      if s.isOver then return s
      else do
        let s ← round w o steps (List.range s.workers.length) s
        rounds w o steps left s

/-- A purge that is about to begin, and the count of metrics that are done already. -/
def prepare (w : World σ γ) (o : Options) : Task σ (Nat × State γ) := do
  let metrics ← w.directory.suggest o.opening none
  let done ← w.completed
  let queue := metrics.filter fun metric => !done.contains metric
  let skipped := metrics.length - queue.length
  let board : Board :=
    { queue, total := queue.length, claimed := 0, finished := 0, failed := 0, touched := 0
      looks := 0, readings := 0, notices := [.found metrics.length o.opening skipped] }
  return (skipped, ⟨board, List.replicate o.workers .idle⟩)

structure Summary where
  metrics : Nat
  finished : Nat
  failed : Nat
  skipped : Nat
  touched : Nat
deriving DecidableEq

def deaths (workers : List (Worker γ)) : List Notice :=
  workers.zipIdx.filterMap fun (worker, id) =>
    match worker with
    | .dead f => some (.died id f)
    | _ => none

def summarize (skipped : Nat) (s : State γ) : Summary × List Notice :=
  (⟨skipped + s.board.total, s.board.finished, s.board.failed, skipped, s.board.touched⟩,
    s.board.notices ++ deaths s.workers)

/-- Purges in turns, of at most a number of steps each. -/
def run (w : World σ γ) (o : Options) (steps : Nat) : Task σ (Summary × List Notice) := do
  let (skipped, s) ← prepare w o
  let s ← (rounds w o steps (steps + 1) s : StateM σ (State γ))
  return summarize skipped s

end RawSeries.Purge
