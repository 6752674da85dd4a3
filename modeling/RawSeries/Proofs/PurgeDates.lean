import RawSeries.Proofs.PurgeSteps

namespace RawSeries.Purge

section Presents

variable {σ γ : Type}

/-- The metric whose query a worker is about to make. -/
def Worker.reads? : Worker γ → Option String
  | .reading metric _ => some metric
  | _ => none

/-- The metric whose query a worker has still to make. -/
def Worker.unread? : Worker γ → Option String
  | .announcing metric => some metric
  | .reading metric _ => some metric
  | _ => none

/-- The metrics whose queries are still to be made. -/
def State.unread (s : State γ) : List String :=
  s.board.queue ++ s.workers.filterMap Worker.unread?

/-- The present at which the query of a metric is made in the steps of a schedule. It is the first
present of all when no such query is made. -/
def asOf (w : World σ γ) (o : Options) (metric : String) :
    List Nat → State γ → StateM σ Quantity
  | [], _ => return o.now 0
  | id :: schedule, s => do
      let s' ← step w o id s
      let later ← asOf w o metric schedule s'
      return if s.workers[id]?.bind Worker.reads? = some metric then o.now s.board.looks else later

/-- If a worker is about to make a query, the present is the one that is given for its metric. -/
def Worker.OnTime (o : Options) (times : String → Quantity) (b : Board) (worker : Worker γ) :
    Prop :=
  ∀ metric, worker.reads? = some metric → times metric = o.now b.looks

/-- Every query in the steps of a schedule is made at the present that is given for its metric. -/
def Dated (w : World σ γ) (o : Options) (times : String → Quantity) :
    List Nat → State γ → σ → Prop
  | [], _, _ => True
  | id :: schedule, s, m =>
      (∀ worker, s.workers[id]? = some worker → worker.OnTime o times s.board) ∧
        Dated w o times schedule ((step w o id s).run m).1 ((step w o id s).run m).2

theorem asOf_cons_run (w : World σ γ) (o : Options) (metric : String) (id : Nat)
    (schedule : List Nat) (s : State γ) (m : σ) :
    ((asOf w o metric (id :: schedule) s).run m).1 =
      if s.workers[id]?.bind Worker.reads? = some metric then o.now s.board.looks
      else ((asOf w o metric schedule ((step w o id s).run m).1).run
        ((step w o id s).run m).2).1 :=
  rfl

theorem asOf_eq_now (w : World σ γ) (o : Options) (metric : String) (schedule : List Nat)
    (s : State γ) (m : σ) : ∃ n, ((asOf w o metric schedule s).run m).1 = o.now n := by
  induction schedule generalizing s m with
  | nil => exact ⟨0, rfl⟩
  | cons id schedule ih =>
      rw [asOf_cons_run]
      split
      · exact ⟨_, rfl⟩
      · exact ih _ _

end Presents

section Step

variable {d : Directory (Except Fault)} {o : Options} {id : Nat} {b b' : Board} {m m' : Memory}
  {worker worker' : Worker Memory.Cursor} {before after : List (Worker Memory.Cursor)}

/-- The metrics in a queue, and those that one worker or the others have to do with. -/
theorem count_tasks (task? : Worker Memory.Cursor → Option String) (queue : List String)
    (before after : List (Worker Memory.Cursor)) (worker : Worker Memory.Cursor)
    (metric : String) :
    (queue ++ (before ++ worker :: after).filterMap task?).count metric =
      queue.count metric + (task? worker).toList.count metric +
        ((before ++ after).filterMap task?).count metric := by
  have hworker : [worker].filterMap task? = (task? worker).toList := by
    cases htask : task? worker with
    | none => simp [htask]
    | some name => simp [htask]
  rw [List.append_cons]
  simp only [List.filterMap_append, hworker, List.count_append]
  omega

theorem Acts.unread_le (h : Acts d o id b m worker worker' b' m') (metric : String) :
    b'.queue.count metric + worker'.unread?.toList.count metric +
        worker.reads?.toList.count metric ≤
      b.queue.count metric + worker.unread?.toList.count metric := by
  cases h with
  | @claim name queue hqueue =>
      rw [hqueue, List.count_cons]
      simp only [Worker.unread?, Worker.reads?, Option.toList, List.count_cons, List.count_nil]
      omega
  | note hentry _ =>
      cases worker with
      | announcing | confirming | rejecting => exact Nat.le_refl _
      | _ => cases hentry
  | die hentry _ =>
      cases worker with
      | announcing | confirming | rejecting =>
          simp only [Worker.unread?, Worker.reads?, Option.toList, List.count_nil]
          exact Nat.le_add_right _ _
      | _ => cases hentry
  | rest hover =>
      cases worker with
      | stopped | dead => exact Nat.le_refl _
      | _ => cases hover
  | _ => exact Nat.le_refl _

theorem Acts.unread (h : Acts d o id b m worker worker' b' m')
    (hsingle : (State.unread ⟨b, before ++ worker :: after⟩).Nodup) :
    (State.unread ⟨b', before ++ worker' :: after⟩).Nodup ∧
      ∀ metric ∈ State.unread ⟨b', before ++ worker' :: after⟩,
        metric ∈ State.unread ⟨b, before ++ worker :: after⟩ ∧ worker.reads? ≠ some metric := by
  have hcount : ∀ metric, (State.unread ⟨b', before ++ worker' :: after⟩).count metric +
      worker.reads?.toList.count metric ≤
        (State.unread ⟨b, before ++ worker :: after⟩).count metric := by
    intro metric
    have hle := h.unread_le metric
    simp only [State.unread, count_tasks]
    omega
  have hone := List.nodup_iff_count.mp hsingle
  constructor
  · apply List.nodup_iff_count.mpr
    intro metric
    have hle := hcount metric
    have hmost := hone metric
    omega
  · intro metric hmetric
    have hpos := List.count_pos_iff.mpr hmetric
    have hle := hcount metric
    have hmost := hone metric
    refine ⟨List.count_pos_iff.mp (by omega), ?_⟩
    intro hreads
    rw [hreads] at hle
    have hself : (some metric).toList.count metric = 1 := List.count_singleton_self
    omega

end Step

section Run

variable (uids : UidTable) (done : List String) (o : Options)

/-- What every act of a worker preserves holds after any schedule. -/
theorem follow_preserves {times : String → Quantity}
    {motive : State Memory.Cursor → Memory → Prop}
    (hact : ∀ id b before worker after m worker' b' m', motive ⟨b, before ++ worker :: after⟩ m →
      worker.OnTime o times b → Acts uids.directory o id b m worker worker' b' m' →
      motive ⟨b', before ++ worker' :: after⟩ m')
    (schedule : List Nat) {s : State Memory.Cursor} {m : Memory}
    (hdated : Dated (Memory.world uids done) o times schedule s m) (h : motive s m) :
    ∃ s' m', (follow (Memory.world uids done) o schedule s).run m = (s', m') ∧ motive s' m' := by
  induction schedule generalizing s m with
  | nil => exact ⟨s, m, rfl, h⟩
  | cons id schedule ih =>
      obtain ⟨htime, hlater⟩ := hdated
      rcases step_acts uids done o id s m with ⟨-, hstep⟩ |
        ⟨b, before, worker, after, worker', b', m', rfl, hid, hstep, hacts⟩
      · rw [follow_cons_run, hstep]
        rw [hstep] at hlater
        exact ih hlater h
      · rw [follow_cons_run, hstep]
        rw [hstep] at hlater
        exact ih hlater
          (hact id b before worker after m worker' b' m' h (htime worker (by simp [← hid])) hacts)

/-- The presents at which the queries of the metrics are made, as no query is made twice. -/
theorem dated_asOf (schedule : List Nat) {s : State Memory.Cursor} {m : Memory}
    (hsingle : s.unread.Nodup) {times : String → Quantity}
    (htimes : ∀ metric ∈ s.unread,
      times metric = ((asOf (Memory.world uids done) o metric schedule s).run m).1) :
    Dated (Memory.world uids done) o times schedule s m := by
  induction schedule generalizing s m with
  | nil => trivial
  | cons id schedule ih =>
      simp only [asOf_cons_run] at htimes
      rcases step_acts uids done o id s m with ⟨hnone, hstep⟩ |
        ⟨b, before, worker, after, worker', b', m', rfl, hid, hstep, hacts⟩
      · rw [hnone, hstep] at htimes
        refine ⟨by rw [hnone]; exact nofun, ?_⟩
        rw [hstep]
        exact ih hsingle htimes
      · have hworker : (before ++ worker :: after)[id]? = some worker := by simp [← hid]
        simp only [hworker, Option.bind_some, hstep] at htimes
        obtain ⟨hsingle', hsame⟩ := hacts.unread hsingle
        constructor
        · intro other hother metric hreads
          obtain rfl : worker = other := Option.some.inj (hworker.symm.trans hother)
          have hunread : metric ∈ State.unread ⟨b, before ++ worker :: after⟩ := by
            apply List.mem_append_right
            refine List.mem_filterMap.mpr ⟨worker, by simp, ?_⟩
            cases worker with
            | reading => exact hreads
            | _ => cases hreads
          rw [htimes metric hunread, if_pos hreads]
        · rw [hstep]
          apply ih hsingle'
          intro metric hmetric
          obtain ⟨hunread, hreads⟩ := hsame metric hmetric
          rw [htimes metric hunread, if_neg hreads]

def toDo : List String :=
  (uids.matching o.opening).filter fun metric => !done.contains metric

def outset : State Memory.Cursor where
  board :=
    { queue := toDo uids done o, total := (toDo uids done o).length, claimed := 0, finished := 0
      failed := 0, touched := 0, looks := 0, readings := 0
      notices := [.found (uids.matching o.opening).length o.opening
        ((uids.matching o.opening).length - (toDo uids done o).length)] }
  workers := List.replicate o.workers .idle

/-- The presents at which the queries of the metrics are made in a purge by a schedule. -/
def presents (schedule : List Nat) (m : Memory) (metric : String) : Quantity :=
  ((asOf (Memory.world uids done) o metric schedule (outset uids done o)).run m).1

theorem presents_eq_now (schedule : List Nat) (m : Memory) (metric : String) :
    ∃ n, presents uids done o schedule m metric = o.now n :=
  asOf_eq_now _ o metric schedule _ m

theorem exists_end_of_presents
    (hends : ∀ n, ∃ stop, 0 ≤ stop ∧ Instant.read (o.now n) o.stop = .ok stop)
    (schedule : List Nat) (m : Memory) (metric : String) :
    ∃ stop, 0 ≤ stop ∧
      Instant.read (presents uids done o schedule m metric) o.stop = .ok stop := by
  obtain ⟨n, hpresent⟩ := presents_eq_now uids done o schedule m metric
  rw [hpresent]
  exact hends n

theorem prepare_run (m : Memory) :
    (prepare (Memory.world uids done) o).run.run m =
      (.ok ((uids.matching o.opening).length - (toDo uids done o).length, outset uids done o), m) :=
  rfl

variable {uids o}

theorem matching_nodup (hnames : (uids.metrics.map Prod.fst).Nodup) (start : String) :
    (uids.matching start).Nodup :=
  (List.mergeSort_perm _ _).nodup_iff.mpr (hnames.filter _)

theorem toDo_nodup (hnames : (uids.metrics.map Prod.fst).Nodup) : (toDo uids done o).Nodup :=
  (matching_nodup hnames o.opening).filter _

theorem dated_presents (hnames : (uids.metrics.map Prod.fst).Nodup) (schedule : List Nat)
    (m : Memory) :
    Dated (Memory.world uids done) o (presents uids done o schedule m) schedule
      (outset uids done o) m := by
  apply dated_asOf uids done o schedule
  · have hunread : (outset uids done o).unread = toDo uids done o := by
      simp [State.unread, outset, List.filterMap_replicate, Worker.unread?]
    rw [hunread]
    exact toDo_nodup done hnames
  · intro metric _
    rfl

end Run

end RawSeries.Purge
