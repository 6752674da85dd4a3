import RawSeries.Proofs.PurgeOrder

/-!
The books of a purge. At any moment, in whatever order the workers have taken their steps and
whatever was refused, every claimed metric is accounted for once, and the rows that are counted for
it are those that were deleted. A worker that dies takes at most its own metric with it.
-/

namespace RawSeries

namespace Sweep

/-- Unless a sweep is about to fail, the rows that were begun are those that were deleted. -/
def State.Counts (deletes : Nat) (s : State Memory.Cursor) : Prop :=
  match s.phase with
  | .closing _ (some _) _ => True
  | .ended (.ok rows) => rows = deletes
  | .ended (.error _) => True
  | _ => s.rows = deletes

theorem Moves.counts {o : Options} {d : Directory (Except Fault)} {s s' : State Memory.Cursor}
    {m m' : Memory} {deletes : Nat} (h : Moves o d s m s' m') (hcounts : s.Counts deletes) :
    s'.Counts (deletes + (s.phase.rids s'.phase).length) := by
  unfold State.Counts at hcounts ⊢
  cases h with
  | handle hphase _ hnext hrows _ _ =>
      rw [hphase] at hcounts ⊢
      rw [hnext, hrows, hcounts]
      rfl
  | finish hphase hnext _ =>
      rw [hphase] at hcounts ⊢
      rw [hnext]
      exact hcounts
  | refuse hphase _ hnext _ | unreadable hphase _ hnext _ _ | held hphase _ _ _ hnext _ _
  | abort hphase hnext _ =>
      rw [hnext]
      trivial
  | @rest result hphase hnext _ =>
      rw [hphase] at hcounts
      rw [hphase, hnext]
      cases result with
      | ok rows => exact hcounts
      | error f => trivial
  | begin hphase _ hnext hkept =>
      rw [hphase] at hcounts ⊢
      rw [hnext, hkept.rows]
      exact hcounts
  | fetch hphase hnext hkept | exhaust hphase hnext hkept | turn hphase hnext hkept
  | close hphase hnext hkept =>
      rw [hphase] at hcounts ⊢
      rw [hnext, hkept.rows]
      exact hcounts

theorem State.Counts.result {s : State Memory.Cursor} {deletes rows : Nat}
    (h : s.Counts deletes) (hresult : s.result? = some (.ok rows)) : rows = deletes := by
  rw [Counts, State.result?_eq_some.mp hresult] at h
  exact h

end Sweep

namespace Purge

section Notices

def Notice.claim? : Notice → Option String
  | .claimed _ metric _ _ => some metric
  | _ => none

def Notice.yield? : Notice → Option (String × Nat)
  | .finished _ metric rows _ => some (metric, rows)
  | _ => none

def Notice.failure? : Notice → Option String
  | .failed _ metric => some metric
  | _ => none

namespace Board

def claims (b : Board) : List String :=
  b.notices.filterMap Notice.claim?

def yields (b : Board) : List (String × Nat) :=
  b.notices.filterMap Notice.yield?

def failures (b : Board) : List String :=
  b.notices.filterMap Notice.failure?

end Board

/-- The sum of the rows of finished metrics. -/
def rowsOf (yields : List (String × Nat)) : Nat :=
  yields.foldr (fun y rows => y.2 + rows) 0

theorem rowsOf_append (yields more : List (String × Nat)) :
    rowsOf (yields ++ more) = rowsOf yields + rowsOf more := by
  induction yields with
  | nil => exact (Nat.zero_add _).symm
  | cons y yields ih =>
      change y.2 + rowsOf (yields ++ more) = y.2 + rowsOf yields + rowsOf more
      rw [ih, Nat.add_assoc]

end Notices

/-- What a table and a log of records are asked to do: the keys that are deleted for a metric, and
the records that are refused. -/
@[ext]
structure Ledger where
  deleted : List (String × Bytes)
  refused : List (String × Status)

namespace Ledger

def blank : Ledger := ⟨[], []⟩

instance : Append Ledger := ⟨fun l l' => ⟨l.deleted ++ l'.deleted, l.refused ++ l'.refused⟩⟩

/-- The number of deletions for a metric. -/
def deletions (l : Ledger) (metric : String) : Nat :=
  l.deleted.countP fun entry => entry.1 == metric

/-- The metrics whose first record was refused. -/
def unbegun (l : Ledger) : List String :=
  l.refused.filterMap fun entry => if entry.2 = .started then some entry.1 else none

theorem blank_append (l : Ledger) : blank ++ l = l := rfl

theorem append_blank (l : Ledger) : l ++ blank = l :=
  Ledger.ext (List.append_nil l.deleted) (List.append_nil l.refused)

theorem append_assoc (l l' l'' : Ledger) : l ++ l' ++ l'' = l ++ (l' ++ l'') :=
  Ledger.ext (List.append_assoc l.deleted l'.deleted l''.deleted)
    (List.append_assoc l.refused l'.refused l''.refused)

theorem deletions_append (l l' : Ledger) (metric : String) :
    (l ++ l').deletions metric = l.deletions metric + l'.deletions metric :=
  List.countP_append

theorem unbegun_append (l l' : Ledger) : (l ++ l').unbegun = l.unbegun ++ l'.unbegun :=
  List.filterMap_append

end Ledger

namespace Worker

/-- The metric that a worker is at and has not yet counted. -/
def task? : Worker Memory.Cursor → Option String
  | .announcing metric => some metric
  | .reading metric _ => some metric
  | .sweeping metric _ _ => some metric
  | _ => none

def isDead : Worker Memory.Cursor → Bool
  | .dead _ => true
  | _ => false

/-- The record that a worker writes in its step, when it is refused. -/
def refusals (o : Options) (b : Board) (m : Memory) (worker : Worker Memory.Cursor) :
    List (String × Status) :=
  ((worker.entry o b).map fun r => (r.metric, r.status)).toList.filter m.heldRecords.contains

/-- The keys that are gone from the table after a step of a worker, which are deleted for its
metric. -/
def deletions (m m' : Memory) (worker : Worker Memory.Cursor) : List (String × Bytes) :=
  worker.metric?.toList.flatMap fun metric =>
    (m'.deleted.drop m.deleted.length).map fun key => (metric, key)

def entered (o : Options) (b : Board) (m m' : Memory) (worker : Worker Memory.Cursor) : Ledger :=
  ⟨worker.deletions m m', worker.refusals o b m⟩

end Worker

def ledgerIn (o : Options) (id : Nat) (s : State Memory.Cursor) (m m' : Memory) : Ledger :=
  match s.workers[id]? with
  | none => .blank
  | some worker => worker.entered o s.board m m'

/-- What is entered in the steps of a schedule. -/
def ledger (w : World Memory Memory.Cursor) (o : Options) :
    List Nat → State Memory.Cursor → StateM Memory Ledger
  | [], _ => return .blank
  | id :: schedule, s => do
      let m ← get
      let s' ← step w o id s
      let m' ← get
      let later ← ledger w o schedule s'
      return ledgerIn o id s m m' ++ later

/-- What a worker at a metric owes to the number of deletions for it. -/
def Worker.Owes (deletions : String → Nat) : Worker Memory.Cursor → Prop
  | .announcing metric => deletions metric = 0
  | .reading metric _ => deletions metric = 0
  | .sweeping metric _ sweep => sweep.Counts (deletions metric)
  | _ => True

/-- What a step of a worker adds to the notices and the counts of a board. -/
structure Posts (b b' : Board) (claimed : List String) (yielded : List (String × Nat))
    (failed : List String) : Prop where
  queue : b.queue = claimed ++ b'.queue
  total : b'.total = b.total
  claims : b'.claims = b.claims ++ claimed
  yields : b'.yields = b.yields ++ yielded
  failures : b'.failures = b.failures ++ failed
  finished : b'.finished = b.finished + yielded.length
  failed : b'.failed = b.failed + failed.length
  touched : b'.touched = b.touched + rowsOf yielded

section Acts

variable {uids : UidTable} {o : Options} {id : Nat} {b b' : Board} {m m' : Memory}
  {worker worker' : Worker Memory.Cursor}

theorem Posts.refl (b : Board) : Posts b b [] [] [] where
  queue := rfl
  total := rfl
  claims := (List.append_nil _).symm
  yields := (List.append_nil _).symm
  failures := (List.append_nil _).symm
  finished := rfl
  failed := rfl
  touched := rfl

theorem Posts.of_looked {claimed : List String} {yielded : List (String × Nat)}
    {failed : List String} (h : Posts b.looked b' claimed yielded failed) :
    Posts b b' claimed yielded failed :=
  { h with }

theorem posts_afterEntry (o : Options) (b : Board) (worker : Worker Memory.Cursor) :
    Posts b (worker.afterEntry o b).2 [] [] [] := by
  cases worker with
  | announcing metric => exact { Posts.refl b with }
  | _ => exact (Posts.refl b.looked).of_looked

theorem posts_after (b : Board) (sweep sweep' : Sweep.State Memory.Cursor) :
    Posts b (b.after sweep sweep') [] [] [] := by
  have hnone : ∀ {α : Type} (account? : Notice → Option α) (events : List Sweep.Event),
      (∀ tick metric rows, account? (.swept tick metric rows) = none) →
      (events.filterMap Notice.ofEvent?).filterMap account? = [] := by
    intro α account? events hswept
    apply List.filterMap_eq_nil_iff.mpr
    intro notice hnotice
    obtain ⟨event, -, hevent⟩ := List.mem_filterMap.mp hnotice
    cases event with
    | progress =>
        cases hevent
        exact hswept _ _ _
    | _ => cases hevent
  constructor
  case claims =>
      rw [Board.after, Board.claims, List.filterMap_append, hnone Notice.claim? _ fun _ _ _ => rfl]
      rfl
  case yields =>
      rw [Board.after, Board.yields, List.filterMap_append, hnone Notice.yield? _ fun _ _ _ => rfl]
      rfl
  case failures =>
      rw [Board.after, Board.failures, List.filterMap_append,
        hnone Notice.failure? _ fun _ _ _ => rfl]
      rfl
  all_goals rfl

theorem posts_fail (o : Options) (id : Nat) (metric : String) (begun : Quantity) (f : Fault)
    (b : Board) :
    Posts b (fail o id metric begun f b : Worker Memory.Cursor × Board).2 [] [] [metric] where
  queue := rfl
  total := rfl
  claims := by simp [Board.claims, fail, Notice.claim?]
  yields := by simp [Board.yields, fail, Notice.yield?]
  failures := by simp [Board.failures, fail, Notice.failure?]
  finished := rfl
  failed := rfl
  touched := rfl

theorem task?_of_entry {r : Record} (hentry : worker.entry o b = some r) :
    worker.task? = none ∧ r.status ≠ .started ∨
      worker.task? = some r.metric ∧ r.status = .started := by
  cases worker with
  | announcing metric =>
      cases hentry
      exact .inr ⟨rfl, rfl⟩
  | confirming metric rows spent | rejecting metric f spent =>
      cases hentry
      exact .inl ⟨rfl, nofun⟩
  | _ => cases hentry

theorem task?_afterEntry {r : Record} (hentry : worker.entry o b = some r) :
    (worker.afterEntry o b).1.task? = worker.task? := by
  cases worker with
  | announcing | confirming | rejecting => rfl
  | _ => cases hentry

theorem task?_dead (f : Fault) : (.dead f : Worker Memory.Cursor).task? = none := rfl

theorem refusals_of_free {r : Record} (hentry : worker.entry o b = some r)
    (hheld : m.heldRecords.contains (r.metric, r.status) = false) : worker.refusals o b m = [] := by
  rw [Worker.refusals, hentry, Option.map_some, Option.toList_some,
    List.filter_cons_of_neg (by simpa using hheld)]
  rfl

theorem refusals_of_held {r : Record} (hentry : worker.entry o b = some r)
    (hheld : m.heldRecords.contains (r.metric, r.status) = true) :
    worker.refusals o b m = [(r.metric, r.status)] := by
  rw [Worker.refusals, hentry, Option.map_some, Option.toList_some,
    List.filter_cons_of_pos hheld]
  rfl

theorem refusals_of_isOver (h : worker.isOver = true) : worker.refusals o b m = [] := by
  cases worker with
  | stopped | dead f => rfl
  | _ => cases h

/-- What a step of a worker posts. A metric that a worker is at stays with it, or is finished,
failed or lost with its first record; a finished one has the rows that its sweep has come to. -/
theorem Acts.posts (h : Acts uids.directory o id b m worker worker' b' m') :
    ∃ claimed yielded failed, Posts b b' claimed yielded failed ∧
      (worker.task?.toList ++ claimed).Perm (worker'.task?.toList ++ (yielded.map Prod.fst ++
        (failed ++ (worker.entered o b m m').unbegun))) ∧
      ∀ y ∈ yielded, ∃ begun sweep, worker = .sweeping y.1 begun sweep ∧
        sweep.result? = some (.ok y.2) ∧ worker.rids worker' = [] := by
  cases h with
  | stop => exact ⟨[], [], [], .refl b, .refl _, nofun⟩
  | @claim metric queue hqueue =>
      refine ⟨[metric], [], [], ?_, .refl _, nofun⟩
      constructor
      case queue => exact hqueue
      case claims => simp [Board.claims, Notice.claim?]
      case yields => simp [Board.yields, Notice.yield?]
      case failures => simp [Board.failures, Notice.failure?]
      all_goals rfl
  | note hentry hheld =>
      refine ⟨[], [], [], posts_afterEntry o b worker, ?_, nofun⟩
      rw [Worker.entered, refusals_of_free hentry hheld, task?_afterEntry hentry]
      exact .refl _
  | die hentry hheld =>
      refine ⟨[], [], [], (Posts.refl b.looked).of_looked, ?_, nofun⟩
      rw [Worker.entered, refusals_of_held hentry hheld]
      rcases task?_of_entry hentry with ⟨htask, hstatus⟩ | ⟨htask, hstatus⟩
      · simp [htask, task?_dead, Ledger.unbegun, hstatus]
      · simp [htask, task?_dead, Ledger.unbegun, hstatus]
  | read => exact ⟨[], [], [], { Posts.refl b with }, .refl _, nofun⟩
  | @sweep _ _ sweep sweep' => exact ⟨[], [], [], posts_after b sweep sweep', .refl _, nofun⟩
  | @misread metric begun f =>
      exact ⟨[], [], [metric], (posts_fail o id metric begun f b.looked).of_looked, .refl _, nofun⟩
  | @giveUp metric begun sweep f =>
      exact ⟨[], [], [metric], posts_fail o id metric begun f b, .refl _, nofun⟩
  | @finish metric begun sweep rows hresult =>
      refine ⟨[], [(metric, rows)], [], ?_, .refl _, ?_⟩
      · constructor
        case claims => simp [Board.claims, Notice.claim?]
        case yields => simp [Board.yields, Notice.yield?]
        case failures => simp [Board.failures, Notice.failure?]
        all_goals rfl
      · rintro y hy
        obtain rfl := List.mem_singleton.mp hy
        exact ⟨begun, sweep, rfl, hresult, rfl⟩
  | rest hover =>
      refine ⟨[], [], [], .refl b, ?_, nofun⟩
      rw [Worker.entered, refusals_of_isOver hover]
      exact .refl _

theorem task?_of_rids {name : String} (h : worker.task? ≠ some name)
    (hmetric : worker.metric? = some name) : worker.rids worker' = [] := by
  cases worker with
  | confirming | rejecting => rfl
  | announcing | reading | sweeping => exact absurd hmetric h
  | _ => cases hmetric

theorem Acts.deletions_keys (h : Acts uids.directory o id b m worker worker' b' m') :
    m'.deleted = m.deleted ++ (worker.deletions m m').map Prod.snd := by
  have hdeleted := h.loses.deleted
  rw [hdeleted, Worker.deletions, hdeleted, List.drop_left]
  cases hmetric : worker.metric? with
  | none =>
      rw [rids_of_free hmetric]
      rfl
  | some metric => simp

theorem Acts.deletions_count (h : Acts uids.directory o id b m worker worker' b' m')
    (metric : String) :
    (worker.deletions m m').countP (fun entry => entry.1 == metric) =
      if worker.task? = some metric then (worker.rids worker').length else 0 := by
  rw [Worker.deletions, h.loses.deleted, List.drop_left]
  cases hown : worker.metric? with
  | none =>
      rw [rids_of_free hown]
      simp
  | some own =>
      by_cases htask : worker.task? = some metric
      · have hsame : own = metric := by
          cases worker with
          | announcing | reading | sweeping => exact Option.some.inj (hown.symm.trans htask)
          | _ => cases htask
        rw [if_pos htask]
        simp [hsame, List.countP_map, Function.comp_def]
      · rw [if_neg htask]
        by_cases hsame : own = metric
        · rw [task?_of_rids htask (hsame ▸ hown)]
          simp
        · simp [hsame, List.countP_map, Function.comp_def]

theorem Acts.entered_deletions (h : Acts uids.directory o id b m worker worker' b' m')
    (l : Ledger) (metric : String) :
    (l ++ worker.entered o b m m').deletions metric = l.deletions metric +
      if worker.task? = some metric then (worker.rids worker').length else 0 := by
  rw [Ledger.deletions_append]
  exact congrArg _ (h.deletions_count metric)

theorem Acts.entered_others (h : Acts uids.directory o id b m worker worker' b' m') (l : Ledger)
    {metric : String} (hother : worker.task? ≠ some metric) :
    (l ++ worker.entered o b m m').deletions metric = l.deletions metric := by
  rw [h.entered_deletions, if_neg hother, Nat.add_zero]

theorem Acts.owes (h : Acts uids.directory o id b m worker worker' b' m') {f : String → Nat}
    (howes : worker.Owes f) (hqueue : ∀ metric ∈ b.queue, f metric = 0) :
    worker'.Owes fun metric => f metric +
      if worker.task? = some metric then (worker.rids worker').length else 0 := by
  cases h with
  | claim hclaimed =>
      have hnone := hqueue _ (hclaimed ▸ List.mem_cons_self)
      simpa [Worker.Owes, Worker.task?] using hnone
  | note hentry _ =>
      cases worker with
      | announcing metric => simpa [Worker.Owes, Worker.rids, Worker.afterEntry] using howes
      | confirming | rejecting => trivial
      | _ => cases hentry
  | read =>
      have hnone : f _ = 0 := howes
      simp [Worker.Owes, Worker.rids, Sweep.start, Sweep.State.Counts, hnone]
  | @sweep metric begun sweep sweep' m' hrunning hmoves =>
      have hcounts := hmoves.counts howes
      simpa [Worker.Owes, Worker.task?, Worker.rids] using hcounts
  | rest hover =>
      cases worker with
      | stopped | dead f => trivial
      | _ => cases hover
  | _ => trivial

theorem Acts.deaths (h : Acts uids.directory o id b m worker worker' b' m') :
    [worker'].countP Worker.isDead =
      [worker].countP Worker.isDead + (worker.refusals o b m).length := by
  cases h with
  | note hentry hheld =>
      rw [refusals_of_free hentry hheld]
      cases worker with
      | announcing | confirming | rejecting => rfl
      | _ => cases hentry
  | die hentry hheld =>
      rw [refusals_of_held hentry hheld]
      cases worker with
      | announcing | confirming | rejecting => rfl
      | _ => cases hentry
  | rest hover =>
      rw [refusals_of_isOver hover]
      rfl
  | _ => rfl

end Acts

/-- What holds at any moment of a purge of some metrics, of the state, of the memory and of what was
entered so far. -/
structure Books (todo : List String) (m₀ : Memory) (s : State Memory.Cursor) (m : Memory)
    (l : Ledger) : Prop where
  claims : s.board.claims ++ s.board.queue = todo
  total : s.board.total = todo.length
  settled : s.board.claims.Perm (s.workers.filterMap Worker.task? ++
    (s.board.yields.map Prod.fst ++ (s.board.failures ++ l.unbegun)))
  finished : s.board.finished = s.board.yields.length
  failed : s.board.failed = s.board.failures.length
  touched : s.board.touched = rowsOf s.board.yields
  deleted : m.deleted = m₀.deleted ++ l.deleted.map Prod.snd
  queued : ∀ metric ∈ s.board.queue, l.deletions metric = 0
  working : ∀ worker ∈ s.workers, worker.Owes l.deletions
  yielded : ∀ y ∈ s.board.yields, y.2 = l.deletions y.1
  dead : s.workers.countP Worker.isDead = l.refused.length
  stopped : .stopped ∈ s.workers → s.board.queue = []

theorem Worker.Owes.congr {f f' : String → Nat} {worker : Worker Memory.Cursor}
    (h : worker.Owes f) (hsame : ∀ metric, worker.task? = some metric → f' metric = f metric) :
    worker.Owes f' := by
  cases worker with
  | announcing metric | reading metric begun =>
      have hzero : f metric = 0 := h
      exact (hsame metric rfl).trans hzero
  | sweeping metric begun sweep =>
      have hcounts : sweep.Counts (f metric) := h
      rw [← hsame metric rfl] at hcounts
      exact hcounts
  | _ => trivial

section Step

variable {uids : UidTable} {o : Options} {id : Nat} {todo : List String} {b b' : Board}
  {m₀ m m' : Memory} {l : Ledger} {before after : List (Worker Memory.Cursor)}
  {worker worker' : Worker Memory.Cursor} {metric : String}

theorem filterMap_task? (before after : List (Worker Memory.Cursor))
    (worker : Worker Memory.Cursor) :
    (before ++ worker :: after).filterMap Worker.task? =
      before.filterMap Worker.task? ++ (worker.task?.toList ++ after.filterMap Worker.task?) := by
  rw [List.filterMap_append, List.filterMap_cons]
  cases worker.task? <;> rfl

theorem countP_isDead (before after : List (Worker Memory.Cursor))
    (worker : Worker Memory.Cursor) :
    (before ++ worker :: after).countP Worker.isDead =
      before.countP Worker.isDead +
        ([worker].countP Worker.isDead + after.countP Worker.isDead) := by
  rw [← List.countP_append, ← List.countP_append]
  rfl

theorem Books.apart (h : Books todo m₀ ⟨b, before ++ worker :: after⟩ m l) (htodo : todo.Nodup)
    (htask : worker.task? = some metric) :
    metric ∉ before.filterMap Worker.task? ∧ metric ∉ after.filterMap Worker.task? ∧
      metric ∉ b.yields.map Prod.fst ∧ metric ∉ b.queue := by
  have honce := List.nodup_iff_count.mp htodo metric
  have hsettled := h.settled.count_eq metric
  rw [← h.claims, List.count_append] at honce
  simp only [filterMap_task?, htask, List.count_append, Option.toList_some,
    List.count_singleton_self] at hsettled honce
  simp only [← List.count_eq_zero]
  omega

theorem Books.act_working (h : Books todo m₀ ⟨b, before ++ worker :: after⟩ m l)
    (htodo : todo.Nodup) (hacts : Acts uids.directory o id b m worker worker' b' m') :
    ∀ w ∈ before ++ worker' :: after, w.Owes (l ++ worker.entered o b m m').deletions := by
  have hself := hacts.owes (h.working worker (by simp)) h.queued
  intro w hw
  rcases List.mem_append.mp hw with hbefore | hafter
  · refine (h.working w (by simp [hbefore])).congr fun metric hmetric =>
      hacts.entered_others l ?_
    intro htask
    exact (h.apart htodo htask).1 (List.mem_filterMap.mpr ⟨w, hbefore, hmetric⟩)
  · rcases List.mem_cons.mp hafter with rfl | hafter
    · exact hself.congr fun metric _ => hacts.entered_deletions l metric
    · refine (h.working w (by simp [hafter])).congr fun metric hmetric =>
        hacts.entered_others l ?_
      intro htask
      exact (h.apart htodo htask).2.1 (List.mem_filterMap.mpr ⟨w, hafter, hmetric⟩)

theorem Books.act_stopped (h : Books todo m₀ ⟨b, before ++ worker :: after⟩ m l)
    (hacts : Acts uids.directory o id b m worker worker' b' m')
    (hstopped : .stopped ∈ before ++ worker' :: after) : b'.queue = [] := by
  obtain ⟨claimed, _, _, hposts, -, -⟩ := hacts.posts
  have hempty : b.queue = [] → b'.queue = [] := by
    intro hnil
    rw [hposts.queue] at hnil
    exact (List.append_eq_nil_iff.mp hnil).2
  rcases List.mem_append.mp hstopped with hbefore | hafter
  · exact hempty (h.stopped (by simp [hbefore]))
  · rcases List.mem_cons.mp hafter with hself | hafter
    · rcases hacts.stops hself.symm with rfl | hnil
      · exact hempty (h.stopped (by simp))
      · exact hnil
    · exact hempty (h.stopped (by simp [hafter]))

/-- A step of one worker leaves the books in balance. -/
theorem Books.act (h : Books todo m₀ ⟨b, before ++ worker :: after⟩ m l) (htodo : todo.Nodup)
    (hacts : Acts uids.directory o id b m worker worker' b' m') :
    Books todo m₀ ⟨b', before ++ worker' :: after⟩ m'
      (l ++ worker.entered o b m m') := by
  obtain ⟨claimed, yielded, failed, hposts, hmoved, hyielded⟩ := hacts.posts
  constructor
  case claims =>
      rw [hposts.claims, List.append_assoc, ← hposts.queue]
      exact h.claims
  case total => exact hposts.total.trans h.total
  case settled =>
      rw [hposts.claims, hposts.yields, hposts.failures, Ledger.unbegun_append,
        List.perm_iff_count]
      -- Counted metric by metric, a step only moves one of them from one place to another.
      intro metric
      have hsettled := h.settled.count_eq metric
      have hcount := hmoved.count_eq metric
      simp only [filterMap_task?, List.map_append, List.count_append] at hsettled hcount ⊢
      omega
  case finished => rw [hposts.finished, hposts.yields, List.length_append, h.finished]
  case failed => rw [hposts.failed, hposts.failures, List.length_append, h.failed]
  case touched => rw [hposts.touched, hposts.yields, rowsOf_append, h.touched]
  case deleted =>
      rw [hacts.deletions_keys, h.deleted, List.append_assoc, ← List.map_append]
      rfl
  case queued =>
      intro metric hmetric
      have hqueued : metric ∈ b.queue := hposts.queue ▸ List.mem_append_right _ hmetric
      rw [hacts.entered_others l fun htask => (h.apart htodo htask).2.2.2 hqueued]
      exact h.queued metric hqueued
  case working => exact h.act_working htodo hacts
  case yielded =>
      intro y hy
      rw [hposts.yields] at hy
      rcases List.mem_append.mp hy with hold | hnewly
      · rw [hacts.entered_others l fun htask =>
          (h.apart htodo htask).2.2.1 (List.mem_map.mpr ⟨y, hold, rfl⟩)]
        exact h.yielded y hold
      · obtain ⟨begun, sweep, rfl, hresult, hnone⟩ := hyielded y hnewly
        have hcounts : sweep.Counts (l.deletions y.1) :=
          h.working (.sweeping y.1 begun sweep) (by simp)
        rw [hacts.entered_deletions, hnone]
        simpa using hcounts.result hresult
  case dead =>
      have hdeaths := hacts.deaths
      have hdead := h.dead
      rw [countP_isDead] at hdead ⊢
      change _ = (l.refused ++ worker.refusals o b m).length
      rw [List.length_append]
      omega
  case stopped => exact h.act_stopped hacts

end Step

section Run

variable (uids : UidTable) (done : List String) {o : Options} {todo : List String}
  {m₀ m : Memory} {s : State Memory.Cursor} {l : Ledger}

theorem ledger_cons_run {w : World Memory Memory.Cursor} {id : Nat} {s' : State Memory.Cursor}
    {m' : Memory} (hstep : (step w o id s).run m = (s', m')) (schedule : List Nat) :
    ((ledger w o (id :: schedule) s).run m).1 =
      ledgerIn o id s m m' ++ ((ledger w o schedule s').run m').1 := by
  have hstep : (step w o id s).run m = pure (s', m') := hstep
  have hget : (get : StateM Memory Memory).run m = pure (m, m) := rfl
  have hget' : (get : StateM Memory Memory).run m' = pure (m', m') := rfl
  simp only [ledger, StateT.run_bind, hget, hget', hstep, pure_bind]
  rfl

theorem Books.step (h : Books todo m₀ s m l) (htodo : todo.Nodup) (id : Nat) :
    ∃ s' m', (step (Memory.world uids done) o id s).run m = (s', m') ∧
      Books todo m₀ s' m' (l ++ ledgerIn o id s m m') := by
  rcases step_acts uids done o id s m with ⟨hnone, hstep⟩ |
    ⟨b, before, worker, after, worker', b', m', rfl, hid, hstep, hacts⟩
  · refine ⟨s, m, hstep, ?_⟩
    rw [ledgerIn, hnone]
    exact l.append_blank.symm ▸ h
  · refine ⟨_, m', hstep, ?_⟩
    have hworker : (before ++ worker :: after)[id]? = some worker := by simp [← hid]
    simp only [ledgerIn, hworker]
    exact h.act htodo hacts

theorem Books.follow (h : Books todo m₀ s m l) (htodo : todo.Nodup) (schedule : List Nat) :
    ∃ s' m', (follow (Memory.world uids done) o schedule s).run m = (s', m') ∧
      Books todo m₀ s' m' (l ++ ((ledger (Memory.world uids done) o schedule s).run m).1) := by
  induction schedule generalizing s m l with
  | nil => exact ⟨s, m, rfl, l.append_blank.symm ▸ h⟩
  | cons id schedule ih =>
      obtain ⟨s₁, m₁, hstep, hnext⟩ := h.step uids done htodo id
      obtain ⟨s', m', hfollow, hlast⟩ := ih hnext
      refine ⟨s', m', ?_, ?_⟩
      · rw [follow_cons_run, hstep]
        exact hfollow
      · rw [ledger_cons_run hstep, ← Ledger.append_assoc]
        exact hlast

theorem outset_books (o : Options) (m : Memory) :
    Books (toDo uids done o) m (outset uids done o) m .blank := by
  have hidle : ∀ worker ∈ (outset uids done o).workers, worker = .idle := by
    intro worker hworker
    exact (List.mem_replicate.mp hworker).2
  constructor
  case claims => rfl
  case total => rfl
  case settled =>
      have hnone : (outset uids done o).workers.filterMap Worker.task? = [] := by
        apply List.filterMap_eq_nil_iff.mpr
        intro worker hworker
        rw [hidle worker hworker]
        rfl
      rw [hnone]
      exact .refl _
  case finished => rfl
  case failed => rfl
  case touched => rfl
  case deleted => exact (List.append_nil _).symm
  case queued =>
      intro metric _
      rfl
  case working =>
      intro worker hworker
      rw [hidle worker hworker]
      trivial
  case yielded => nofun
  case dead =>
      apply List.countP_eq_zero.mpr
      intro worker hworker
      rw [hidle worker hworker]
      exact Bool.false_ne_true
  case stopped =>
      intro hstopped
      cases hidle _ hstopped

end Run

section Over

variable {todo : List String} {m₀ m : Memory} {s : State Memory.Cursor} {l : Ledger}

theorem Books.claims_nodup (h : Books todo m₀ s m l) (htodo : todo.Nodup) :
    s.board.claims.Nodup :=
  (List.nodup_append.mp (h.claims ▸ htodo)).1

theorem rowsOf_le_length {yields : List (String × Nat)} (hyields : (yields.map Prod.fst).Nodup)
    (entries : List (String × Bytes))
    (hrows : ∀ y ∈ yields, y.2 = entries.countP fun entry => entry.1 == y.1) :
    rowsOf yields ≤ entries.length := by
  induction yields generalizing entries with
  | nil => exact Nat.zero_le _
  | cons y yields ih =>
      obtain ⟨hy, hmore⟩ := List.nodup_cons.mp hyields
      obtain ⟨hown, hothers⟩ := List.forall_mem_cons.mp hrows
      -- The entries of the first metric are left out for the others.
      let rest := entries.filter fun entry => !(entry.1 == y.1)
      have hrest : ∀ z ∈ yields, z.2 = rest.countP fun entry => entry.1 == z.1 := by
        intro z hz
        have hne : z.1 ≠ y.1 := fun heq => hy (List.mem_map.mpr ⟨z, hz, heq⟩)
        rw [hothers z hz, List.countP_filter]
        apply List.countP_congr
        intro entry _
        grind
      have hlength := List.length_eq_countP_add_countP (fun entry => entry.1 == y.1) (l := entries)
      have hfewer : rest.length = entries.countP fun entry => ¬(entry.1 == y.1) = true := by
        rw [List.countP_eq_length_filter]
        apply congrArg List.length
        apply List.filter_congr
        intro entry _
        cases entry.1 == y.1 <;> rfl
      have hlater := ih hmore rest hrest
      change y.2 + rowsOf yields ≤ entries.length
      omega

theorem Books.touched_le (h : Books todo m₀ s m l) (htodo : todo.Nodup) :
    s.board.touched ≤ l.deleted.length := by
  rw [h.touched]
  apply rowsOf_le_length _ l.deleted h.yielded
  have hclaims := h.settled.nodup_iff.mp (h.claims_nodup htodo)
  exact (List.nodup_append.mp (List.nodup_append.mp hclaims).2.1).1

theorem Books.settled_of_isOver (h : Books todo m₀ s m l) (hover : s.isOver = true) :
    s.board.claims.Perm (s.board.yields.map Prod.fst ++ (s.board.failures ++ l.unbegun)) := by
  have hnone : s.workers.filterMap Worker.task? = [] := by
    apply List.filterMap_eq_nil_iff.mpr
    intro worker hworker
    have hdone := List.all_eq_true.mp hover worker hworker
    cases worker with
    | stopped | dead f => rfl
    | _ => cases hdone
  have hsettled := h.settled
  rw [hnone] at hsettled
  exact hsettled

/-- A worker that did not die has found the queue empty. -/
theorem Books.queue_of_survivor (h : Books todo m₀ s m l) (hover : s.isOver = true)
    (hfewer : l.refused.length < s.workers.length) : s.board.queue = [] := by
  have halive : ¬∀ worker ∈ s.workers, worker.isDead = true := by
    intro hall
    have hdead := List.countP_eq_length.mpr hall
    rw [h.dead] at hdead
    omega
  obtain ⟨worker, hworker, hlives⟩ : ∃ worker ∈ s.workers, ¬worker.isDead = true := by
    simpa using halive
  have hdone := List.all_eq_true.mp hover worker hworker
  cases worker with
  | stopped => exact h.stopped hworker
  | dead f => exact absurd rfl hlives
  | _ => cases hdone

end Over

/-- The books of a purge balance at any moment, whatever was refused and in whatever order the
workers have taken their steps. Metrics are claimed once, in the order of the queue. Each of them is
with a worker, finished, failed, or was lost with its first record, and the rows of a finished one
are those that were deleted for it. All workers come to their end when each of them has had enough
steps. Nothing is missing from the count of the metrics then but what no worker has claimed, and
where fewer records were refused than there are workers, every metric was claimed. -/
theorem follow_balances (uids : UidTable) (hnames : (uids.metrics.map Prod.fst).Nodup)
    (done : List String) (o : Options) (m : Memory) (schedule : List Nat) :
    ∃ skipped s s' m' summary entered,
      (prepare (Memory.world uids done) o).run.run m = (.ok (skipped, s), m) ∧
      (follow (Memory.world uids done) o schedule s).run m = (s', m') ∧
      (summarize skipped s').1 = summary ∧
      ((ledger (Memory.world uids done) o schedule s).run m).1 = entered ∧
      s'.board.claims ++ s'.board.queue = toDo uids done o ∧ s'.board.claims.Nodup ∧
      s'.board.claims.Perm (s'.workers.filterMap Worker.task? ++
        (s'.board.yields.map Prod.fst ++ (s'.board.failures ++ entered.unbegun))) ∧
      summary.metrics = (uids.matching o.opening).length ∧
      summary.skipped = (uids.matching o.opening).countP done.contains ∧
      summary.finished = s'.board.yields.length ∧ summary.failed = s'.board.failures.length ∧
      summary.touched = rowsOf s'.board.yields ∧
      (∀ y ∈ s'.board.yields, y.2 = entered.deletions y.1) ∧
      m'.deleted = m.deleted ++ entered.deleted.map Prod.snd ∧
      summary.touched ≤ entered.deleted.length ∧
      (Aggregator.ofWord? o.stop = none →
        (∀ id < o.workers, Memory.enough uids m ≤ schedule.count id) → s'.isOver = true) ∧
      (s'.isOver = true →
        summary.metrics = summary.skipped + summary.finished + summary.failed +
          entered.unbegun.length + s'.board.queue.length) ∧
      (s'.isOver = true → entered.refused.length < o.workers → s'.board.queue = []) := by
  have htodo := toDo_nodup (o := o) done hnames
  obtain ⟨s', m', hfollow, hbooks⟩ :=
    (outset_books uids done o m).follow uids done htodo schedule
  rw [Ledger.blank_append] at hbooks
  have hcrew := follow_workers_length o (Memory.world uids done) schedule (outset uids done o) m
  have hskipped := skipped_count uids done o
  have hlength : (toDo uids done o).length ≤ (uids.matching o.opening).length :=
    List.length_filter_le _ _
  rw [hfollow] at hcrew
  refine ⟨_, _, s', m', _, _, prepare_run uids done o m, hfollow, rfl, rfl, hbooks.claims,
    hbooks.claims_nodup htodo, hbooks.settled, ?_, hskipped, hbooks.finished, hbooks.failed,
    hbooks.touched, hbooks.yielded, hbooks.deleted, hbooks.touched_le htodo, ?_, ?_, ?_⟩
  · change _ - _ + s'.board.total = _
    rw [hbooks.total]
    omega
  · intro hstop hfair
    have hover := follow_isOver done hstop m hfair
    rw [hfollow] at hover
    exact hover
  · intro hover
    have hclaims := (hbooks.settled_of_isOver hover).length_eq
    have hall := congrArg List.length hbooks.claims
    simp only [List.length_append, List.length_map] at hclaims hall
    change _ - _ + s'.board.total = _ - _ + s'.board.finished + s'.board.failed + _ + _
    rw [hbooks.total, hbooks.finished, hbooks.failed]
    omega
  · intro hover hfewer
    -- With fewer refusals than workers, one of them did not die.
    apply hbooks.queue_of_survivor hover
    rw [hcrew]
    simpa [outset] using hfewer

/-- The first record for one of three metrics is refused, and so is the deletion of a row of another
one. -/
def lossMemory : Memory :=
  { pairMemory with heldRecords := [("disk", .started)] }

/-- The first worker loses its metric, and the second one does the rest. -/
def lossSchedule : List Nat :=
  [0, 1, 0] ++ List.replicate 24 1

theorem outset_pair : outset pairUids [] sampleOptions =
    ⟨⟨["disk", "idle", "load"], 3, 0, 0, 0, 0, 0, 0, [.found 3 "" 0]⟩, [.idle, .idle]⟩ := by
  have htodo : toDo pairUids [] sampleOptions = ["disk", "idle", "load"] := by
    rw [toDo, show sampleOptions.opening = "" from rfl, pairUids_matching]
    decide
  rw [outset, htodo, show sampleOptions.opening = "" from rfl, pairUids_matching]
  rfl

/-- The summary, whether all workers are over, and what was entered. -/
def lossOutcome : Summary × Bool × List (String × Bytes) × List (String × Status) :=
  let s := outset pairUids [] sampleOptions
  let s' := ((follow (Memory.world pairUids []) sampleOptions lossSchedule s).run lossMemory).1
  let l := ((ledger (Memory.world pairUids []) sampleOptions lossSchedule s).run lossMemory).1
  ((summarize 0 s').1, s'.isOver, l.deleted, l.refused)

theorem follow_balances_loss :
    (pairUids.metrics.map Prod.fst).Nodup ∧
      ∃ skipped s s' m' summary entered,
        (prepare (Memory.world pairUids []) sampleOptions).run.run lossMemory =
          (.ok (skipped, s), lossMemory) ∧
        (follow (Memory.world pairUids []) sampleOptions lossSchedule s).run lossMemory =
          (s', m') ∧
        (summarize skipped s').1 = summary ∧
        ((ledger (Memory.world pairUids []) sampleOptions lossSchedule s).run lossMemory).1 =
          entered ∧
        s'.isOver = true ∧ summary = ⟨3, 1, 1, 0, 1⟩ ∧ entered.unbegun = ["disk"] ∧
        entered.deleted = [("idle", [3, 0, 9]), ("load", [1, 0, 9])] ∧
        m'.deleted = [[3, 0, 9], [1, 0, 9]] ∧ s'.board.claims = ["disk", "idle", "load"] ∧
        summary.metrics = summary.skipped + summary.finished + summary.failed +
          entered.unbegun.length := by
  have hnames : (pairUids.metrics.map Prod.fst).Nodup := by decide
  have houtcome : lossOutcome = (⟨3, 1, 1, 0, 1⟩, true,
      [("idle", [3, 0, 9]), ("load", [1, 0, 9])], [("disk", .started)]) := by
    rw [lossOutcome, outset_pair]
    decide +kernel
  obtain ⟨skipped, s, s', m', summary, entered, hprepare, hfollow, hsummary, hledger, hclaims, -, -,
    -, -, -, -, -, -, hdeleted, -, -, hall, hqueue⟩ :=
    follow_balances pairUids hnames [] sampleOptions lossMemory lossSchedule
  have hstate := hprepare.symm.trans (prepare_run pairUids [] sampleOptions lossMemory)
  obtain ⟨rfl, rfl⟩ := Prod.mk.inj (Except.ok.inj (Prod.mk.inj hstate).1)
  have hnone : (pairUids.matching sampleOptions.opening).length -
      (toDo pairUids [] sampleOptions).length = 0 := by
    rw [skipped_count]
    exact List.countP_eq_zero.mpr fun _ _ => Bool.false_ne_true
  have hcounted := hsummary
  rw [hnone] at hcounted
  simp only [lossOutcome, hfollow, hledger, hcounted, Prod.mk.injEq] at houtcome
  obtain ⟨hcounts, hover, hgone, hrefused⟩ := houtcome
  have hempty : s'.board.queue = [] := by
    apply hqueue hover
    rw [hrefused]
    decide
  refine ⟨hnames, _, _, s', m', summary, entered, hprepare, hfollow, hsummary, hledger, hover,
    hcounts, ?_, hgone, ?_, ?_, ?_⟩
  · rw [Ledger.unbegun, hrefused]
    rfl
  · rw [hdeleted, hgone]
    rfl
  · rw [hempty, List.append_nil] at hclaims
    rw [hclaims]
    exact congrArg (·.board.queue) outset_pair
  · simpa [hempty] using hall hover

end Purge

end RawSeries
