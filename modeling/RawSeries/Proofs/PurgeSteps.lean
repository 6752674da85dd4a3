import RawSeries.Proofs.SweepSteps

namespace RawSeries

def Memory.noted (m : Memory) (r : Record) : Memory :=
  { m with records := m.records ++ [r] }

theorem Memory.append_run (r : Record) (m : Memory) :
    (append r).run.run m =
      if m.heldRecords.contains (r.metric, r.status) then
        (.error (.recordRefused r.metric r.status.word), m)
      else (.ok (), m.noted r) := by
  rw [append, Task.get_bind_run]
  by_cases hheld : m.heldRecords.contains (r.metric, r.status) = true
  · simp only [hheld, if_true]
    rfl
  · simp only [hheld, Bool.false_eq_true, if_false]
    rfl

namespace Purge

open Sweep (Moves)

def Worker.entry (o : Options) (b : Board) : Worker Memory.Cursor → Option Record
  | .announcing metric => some (record o b metric .started 0 0 none)
  | .confirming metric rows spent => some (record o b metric .done rows spent none)
  | .rejecting metric fault spent => some (record o b metric .failed 0 spent (some fault.line))
  | _ => none

/-- What a worker is doing when its record has been written. -/
def Worker.afterEntry (o : Options) (b : Board) : Worker Memory.Cursor → Worker Memory.Cursor × Board
  | .announcing metric =>
      (.reading metric (o.clock b.readings), { b.looked with readings := b.readings + 1 })
  | _ => (.idle, b.looked)

section AfterEntry

variable (o : Options) (b : Board) (worker : Worker Memory.Cursor)

@[simp] theorem Worker.afterEntry_queue : (worker.afterEntry o b).2.queue = b.queue := by
  cases worker <;> rfl

@[simp] theorem Worker.afterEntry_total : (worker.afterEntry o b).2.total = b.total := by
  cases worker <;> rfl

@[simp] theorem Worker.afterEntry_isOver : (worker.afterEntry o b).1.isOver = false := by
  cases worker <;> rfl

end AfterEntry

/-- What a worker does in one step, with the queries that the words of a metric are read as. -/
inductive Acts (d : Directory (Except Fault)) (o : Options) (id : Nat) (b : Board) (m : Memory) :
    Worker Memory.Cursor → Worker Memory.Cursor → Board → Memory → Prop where
  | stop (hqueue : b.queue = []) : Acts d o id b m .idle .stopped b m
  | claim {metric : String} {queue : List String} (hqueue : b.queue = metric :: queue) :
      Acts d o id b m .idle (.announcing metric)
        { b with
          queue
          claimed := b.claimed + 1
          notices := b.notices ++ [.claimed id metric (b.claimed + 1) b.total] } m
  | note {worker : Worker Memory.Cursor} {r : Record} (hentry : worker.entry o b = some r)
      (hheld : m.heldRecords.contains (r.metric, r.status) = false) :
      Acts d o id b m worker (worker.afterEntry o b).1 (worker.afterEntry o b).2 (m.noted r)
  | die {worker : Worker Memory.Cursor} {r : Record} (hentry : worker.entry o b = some r)
      (hheld : m.heldRecords.contains (r.metric, r.status) = true) :
      Acts d o id b m worker (.dead (.recordRefused r.metric r.status.word)) b.looked m
  | read {metric : String} {begun : Quantity} {queries : List Query}
      (hread : Query.read d o.layout (o.now b.looks) (words o metric) = .ok queries) :
      Acts d o id b m (.reading metric begun)
        (.sweeping metric begun (Sweep.start (sweepOptions o metric (clockFrom o b 0)) queries))
        { b.looked with readings := b.readings + 1 } m
  | misread {metric : String} {begun : Quantity} {f : Fault}
      (hread : Query.read d o.layout (o.now b.looks) (words o metric) = .error f) :
      Acts d o id b m (.reading metric begun) (.rejecting metric f (elapsed o b.looked begun))
        (fail o id metric begun f b.looked : Worker Memory.Cursor × Board).2 m
  | sweep {metric : String} {begun : Quantity} {sweep sweep' : Sweep.State Memory.Cursor}
      {m' : Memory} (hrunning : sweep.result? = none)
      (hmoves : Moves (sweepOptions o metric (clockFrom o b sweep.readings)) d sweep m sweep' m') :
      Acts d o id b m (.sweeping metric begun sweep) (.sweeping metric begun sweep')
        (b.after sweep sweep') m'
  | finish {metric : String} {begun : Quantity} {sweep : Sweep.State Memory.Cursor} {rows : Nat}
      (hresult : sweep.result? = some (.ok rows)) :
      Acts d o id b m (.sweeping metric begun sweep) (.confirming metric rows (elapsed o b begun))
        { b with
          finished := b.finished + 1
          touched := b.touched + rows
          readings := b.readings + 1
          notices := b.notices ++ [.finished id metric rows (elapsed o b begun)] } m
  | giveUp {metric : String} {begun : Quantity} {sweep : Sweep.State Memory.Cursor} {f : Fault}
      (hresult : sweep.result? = some (.error f)) :
      Acts d o id b m (.sweeping metric begun sweep) (.rejecting metric f (elapsed o b begun))
        (fail o id metric begun f b : Worker Memory.Cursor × Board).2 m
  | rest {worker : Worker Memory.Cursor} (hover : worker.isOver = true) :
      Acts d o id b m worker worker b m

variable (uids : UidTable) (done : List String) (o : Options) (id : Nat)

theorem noting_acts {o : Options} {id : Nat} (b : Board) {worker : Worker Memory.Cursor}
    {r : Record} (m : Memory) (hentry : worker.entry o b = some r) :
    ∃ worker' b' m',
      (stepWorker (Memory.world uids done) o id b worker).run m = ((worker', b'), m') ∧
      Acts uids.directory o id b m worker worker' b' m' := by
  have happend : ((Memory.world uids done).append r).run.run m = _ := Memory.append_run r m
  cases hheld : m.heldRecords.contains (r.metric, r.status) with
  | true =>
      have hrun : ((Memory.world uids done).append r).run.run m =
          pure (.error (.recordRefused r.metric r.status.word), m) :=
        happend.trans (if_pos hheld)
      refine ⟨_, _, _, ?_, .die hentry hheld⟩
      cases worker with
      | announcing metric | confirming metric rows spent | rejecting metric fault spent =>
          cases hentry
          simp only [stepWorker, StateT.run_bind, hrun, pure_bind]
          rfl
      | _ => cases hentry
  | false =>
      have hrun : ((Memory.world uids done).append r).run.run m = pure (.ok (), m.noted r) :=
        happend.trans (if_neg (Bool.eq_false_iff.mp hheld))
      refine ⟨_, _, _, ?_, .note hentry hheld⟩
      cases worker with
      | announcing metric | confirming metric rows spent | rejecting metric fault spent =>
          cases hentry
          simp only [stepWorker, StateT.run_bind, hrun, pure_bind]
          rfl
      | _ => cases hentry

theorem stepWorker_acts (b : Board) (worker : Worker Memory.Cursor) (m : Memory) :
    ∃ worker' b' m',
      (stepWorker (Memory.world uids done) o id b worker).run m = ((worker', b'), m') ∧
      Acts uids.directory o id b m worker worker' b' m' := by
  cases worker with
  | idle =>
      unfold stepWorker
      cases hqueue : b.queue with
      | nil => exact ⟨_, _, _, rfl, .stop hqueue⟩
      | cons metric queue => exact ⟨_, _, _, rfl, .claim hqueue⟩
  | announcing metric => exact noting_acts uids done b m rfl
  | reading metric begun =>
      -- The directory is in memory, so that its lookups change nothing.
      have hdirectory : (Memory.world uids done).directory = uids.directory.lift :=
        uids.directory_eq_lift
      have hrun : (Query.read (Memory.world uids done).directory o.layout (o.now b.looks)
          (words o metric)).run.run m =
            pure (Query.read uids.directory o.layout (o.now b.looks) (words o metric), m) := by
        rw [hdirectory, Query.read_lift]
        rfl
      cases hread : (Query.read uids.directory o.layout (o.now b.looks) (words o metric) :
          Except Fault (List Query)) with
      | error f =>
          refine ⟨_, _, _, ?_, .misread hread⟩
          simp only [stepWorker, StateT.run_bind, hrun, hread, pure_bind]
          rfl
      | ok queries =>
          refine ⟨_, _, _, ?_, .read hread⟩
          simp only [stepWorker, StateT.run_bind, hrun, hread, pure_bind]
          rfl
  | sweeping metric begun sweep =>
      cases hresult : sweep.result? with
      | none =>
          obtain ⟨sweep', m', hstep, hmoves⟩ :=
            Sweep.step_moves (sweepOptions o metric (clockFrom o b sweep.readings)) uids.directory
              sweep m
          rw [← UidTable.directory_eq_lift] at hstep
          have hstep : (Sweep.step (Memory.world uids done).table (Memory.world uids done).directory
              (sweepOptions o metric (clockFrom o b sweep.readings)) sweep).run m =
                pure (sweep', m') := hstep
          refine ⟨_, _, _, ?_, .sweep hresult hmoves⟩
          simp only [stepWorker, hresult, StateT.run_bind, hstep, pure_bind]
          rfl
      | some result =>
          cases result with
          | error f =>
              refine ⟨_, _, _, ?_, .giveUp hresult⟩
              simp only [stepWorker, hresult]
              rfl
          | ok rows =>
              refine ⟨_, _, _, ?_, .finish hresult⟩
              simp only [stepWorker, hresult]
              rfl
  | confirming metric rows spent => exact noting_acts uids done b m rfl
  | rejecting metric fault spent => exact noting_acts uids done b m rfl
  | stopped => exact ⟨_, _, _, rfl, .rest rfl⟩
  | dead f => exact ⟨_, _, _, rfl, .rest rfl⟩

theorem exists_split {α : Type} {as : List α} {id : Nat} {a : α} (h : as[id]? = some a) :
    ∃ before after, as = before ++ a :: after ∧ before.length = id ∧
      ∀ a', as.set id a' = before ++ a' :: after := by
  obtain ⟨hid, rfl⟩ := List.getElem?_eq_some_iff.mp h
  have hset : ∀ a', as.set id a' = as.take id ++ a' :: as.drop (id + 1) := by
    intro a'
    rw [List.set_eq_take_append_cons_drop, if_pos hid]
  refine ⟨as.take id, as.drop (id + 1), ?_, ?_, hset⟩
  · rw [← hset, List.set_getElem_self]
  · exact List.length_take_of_le (Nat.le_of_lt hid)

/-- A step of a purge is an act of the worker with the number, if there is one. -/
theorem step_acts (s : State Memory.Cursor) (m : Memory) :
    (s.workers[id]? = none ∧ (step (Memory.world uids done) o id s).run m = (s, m)) ∨
    ∃ b before worker after worker' b' m', s = ⟨b, before ++ worker :: after⟩ ∧
      before.length = id ∧
      (step (Memory.world uids done) o id s).run m = (⟨b', before ++ worker' :: after⟩, m') ∧
      Acts uids.directory o id b m worker worker' b' m' := by
  unfold step
  cases hworker : s.workers[id]? with
  | none => exact .inl ⟨rfl, rfl⟩
  | some worker =>
      obtain ⟨before, after, hworkers, hid, hset⟩ := exists_split hworker
      obtain ⟨worker', b', m', hrun, hacts⟩ := stepWorker_acts uids done o id s.board worker m
      refine .inr ⟨s.board, before, worker, after, worker', b', m', ?_, hid, ?_, hacts⟩
      · rw [← hworkers]
      · rw [← hset]
        simp only [StateT.run_bind, hrun]
        rfl

/-- The query of a metric: from the beginning of time to the end that is given, as it is read at a
present. -/
def IsQueryOf (now : Quantity) (metric : String) (q : Query) : Prop :=
  ∃ uid stop, uids.id? .metric metric = some uid ∧ Instant.read now o.stop = .ok stop ∧
    q = ⟨metric, uid, 0, stop, .sum, false, none, [], o.layout⟩

theorem read_clause (metric : String) {c : Clause} {rest : List String}
    (h : Clause.read [Aggregator.sum.word, metric] = .ok (c, rest)) :
    c = ⟨.sum, false, none, metric, []⟩ ∧ rest = [] := by
  have haggregator : Clause.aggregatorOf Aggregator.sum.word = .ok .sum := rfl
  by_cases hrate : metric = "rate"
  · subst hrate
    cases h
  · by_cases hdownsample : metric = "downsample"
    · subst hdownsample
      cases h
    · simp only [Clause.read, Clause.take, Clause.takeRate, Clause.takeDownsample, haggregator,
        hrate, hdownsample, if_false, bind, Except.bind, pure, Except.pure] at h
      cases h
      exact ⟨rfl, rfl⟩

/-- The words of a metric are read as its query, unless the end of the range is taken for an
aggregator. -/
theorem read_words {o : Options} {now : Quantity} {metric : String} {queries : List Query}
    (hstop : Aggregator.ofWord? o.stop = none)
    (h : Query.read uids.directory o.layout now (words o metric) =
      (.ok queries : Except Fault (List Query))) :
    ∃ q, queries = [q] ∧ IsQueryOf uids o now metric q := by
  have hstart : Instant.read now "0" = .ok 0 := rfl
  cases hread : Instant.read now o.stop with
  | error f =>
      simp only [Query.read, words, Query.orFail, hstart, Query.readStop, hstop, hread] at h
      cases h
  | ok stop =>
      simp only [Query.read, words, Query.orFail, hstart, Query.readStop, hstop, hread,
        Option.isNone_none, if_true, Except.map, pure, Except.pure, bind, Except.bind] at h
      split at h
      · cases h
      · have h : Query.readClauses uids.directory o.layout 0 stop 2 [Aggregator.sum.word, metric] =
            (.ok queries : Except Fault (List Query)) := h
        unfold Query.readClauses at h
        cases hclause : Clause.read [Aggregator.sum.word, metric] with
        | error f =>
            rw [hclause] at h
            cases h
        | ok read =>
            obtain ⟨c, rest⟩ := read
            obtain ⟨rfl, rfl⟩ := read_clause metric hclause
            rw [hclause] at h
            cases huid : uids.id? .metric metric with
            | none =>
                simp only [Query.orFail, Query.ofClause, UidTable.directory, huid, bind,
                  Except.bind, pure, Except.pure, List.mapM_nil] at h
                cases h
            | some uid =>
                simp only [Query.orFail, Query.ofClause, UidTable.directory, huid, bind,
                  Except.bind, pure, Except.pure, List.mapM_nil, Query.readClauses] at h
                cases h
                exact ⟨_, rfl, uid, stop, huid, hread, rfl⟩

section Schedules

variable {σ γ : Type} (w : World σ γ)

theorem follow_cons_run (schedule : List Nat) (s : State γ) (m : σ) :
    (follow w o (id :: schedule) s).run m =
      (follow w o schedule ((step w o id s).run m).1).run ((step w o id s).run m).2 := rfl

theorem follow_append_run (schedule more : List Nat) (s : State γ) (m : σ) :
    (follow w o (schedule ++ more) s).run m =
      (follow w o more ((follow w o schedule s).run m).1).run
        ((follow w o schedule s).run m).2 := by
  induction schedule generalizing s m with
  | nil => rfl
  | cons first schedule ih =>
      rw [List.cons_append, follow_cons_run, follow_cons_run]
      exact ih _ _

theorem step_workers_length (s : State γ) (m : σ) :
    ((step w o id s).run m).1.workers.length = s.workers.length := by
  unfold step
  split
  · rfl
  · exact List.length_set

theorem follow_workers_length (schedule : List Nat) (s : State γ) (m : σ) :
    ((follow w o schedule s).run m).1.workers.length = s.workers.length := by
  induction schedule generalizing s m with
  | nil => rfl
  | cons id schedule ih =>
      rw [follow_cons_run, ih]
      exact step_workers_length o id w s m

theorem turn_follow (steps : Nat) (s : State γ) (m : σ) :
    ∃ schedule, (turn w o id steps s).run m = (follow w o schedule s).run m ∧
      (steps ≠ 0 → id ∈ schedule) := by
  induction steps generalizing s m with
  | zero => exact ⟨[], rfl, fun hsteps => absurd rfl hsteps⟩
  | succ steps ih =>
      cases hstep : (step w o id s).run m with
      | mk s₁ m₁ =>
          have hrun : (step w o id s).run m = pure (s₁, m₁) := hstep
          have hone : (follow w o [id] s).run m = (s₁, m₁) := by
            rw [follow_cons_run, hstep]
            rfl
          simp only [turn, StateT.run_bind, hrun, pure_bind]
          cases s₁.workers[id]? with
          | none => exact ⟨[id], hone.symm, fun _ => List.mem_cons_self⟩
          | some worker =>
              by_cases hover : (worker.isOver || w.waits worker) = true
              · simp only [hover, if_true]
                exact ⟨[id], hone.symm, fun _ => List.mem_cons_self⟩
              · simp only [hover, Bool.false_eq_true, if_false]
                obtain ⟨schedule, hturn, -⟩ := ih s₁ m₁
                refine ⟨id :: schedule, ?_, fun _ => List.mem_cons_self⟩
                rw [hturn, follow_cons_run, hstep]

theorem round_follow {steps : Nat} (hsteps : steps ≠ 0) (ids : List Nat) (s : State γ) (m : σ) :
    ∃ schedule, (round w o steps ids s).run m = (follow w o schedule s).run m ∧
      ∀ id ∈ ids, id ∈ schedule := by
  induction ids generalizing s m with
  | nil => exact ⟨[], rfl, nofun⟩
  | cons id ids ih =>
      obtain ⟨first, hturn, hfirst⟩ := turn_follow o id w steps s m
      obtain ⟨later, hround, hlater⟩ :=
        ih ((follow w o first s).run m).1 ((follow w o first s).run m).2
      refine ⟨first ++ later, ?_, ?_⟩
      · rw [follow_append_run, ← hround]
        simp only [round, StateT.run_bind, hturn]
        rfl
      · intro other hother
        rcases List.mem_cons.mp hother with rfl | hother
        · exact List.mem_append_left _ (hfirst hsteps)
        · exact List.mem_append_right _ (hlater other hother)

/-- Rounds of turns are steps of workers in some order. Unless the purge is over in the end, every
worker takes as many steps at least as there are rounds. -/
theorem rounds_follow {steps : Nat} (hsteps : steps ≠ 0) (left : Nat) (s : State γ) (m : σ) :
    ∃ schedule, (rounds w o steps left s).run m = (follow w o schedule s).run m ∧
      (((follow w o schedule s).run m).1.isOver = true ∨
        ∀ id < s.workers.length, left ≤ schedule.count id) := by
  induction left generalizing s m with
  | zero => exact ⟨[], rfl, .inr fun _ _ => Nat.zero_le _⟩
  | succ left ih =>
      unfold rounds
      split
      case isTrue hover => exact ⟨[], rfl, .inl hover⟩
      case isFalse =>
          obtain ⟨first, hround, hfirst⟩ :=
            round_follow o w hsteps (List.range s.workers.length) s m
          obtain ⟨later, hrounds, hlater⟩ := ih ((follow w o first s).run m).1
            ((follow w o first s).run m).2
          refine ⟨first ++ later, ?_, ?_⟩
          · rw [follow_append_run, ← hrounds]
            simp only [StateT.run_bind, hround]
            rfl
          · rw [follow_append_run]
            refine hlater.imp_right ?_
            intro hcount id hid
            have hmore := hcount id (by rw [follow_workers_length]; exact hid)
            have hone := List.count_pos_iff.mpr (hfirst id (List.mem_range.mpr hid))
            rw [List.count_append]
            omega

end Schedules

end Purge

end RawSeries
