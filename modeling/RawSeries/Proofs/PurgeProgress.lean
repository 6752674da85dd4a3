import RawSeries.Proofs.PurgeCourse

namespace RawSeries

namespace Purge

/-- The steps that a worker takes at most until it looks at the queue the next time, that one
included, when no scan has more than so many rows. -/
def Worker.stepsLeft (rows : Nat) : Worker Memory.Cursor → Nat
  | .idle => 1
  | .announcing _ => Sweep.enough 1 rows rows + 5
  | .reading _ _ => Sweep.enough 1 rows rows + 4
  | .sweeping _ _ sweep => sweep.phase.stepsLeft rows + 3
  | .confirming .. => 2
  | .rejecting .. => 2
  | .stopped => 0
  | .dead _ => 0

/-- The steps that a worker takes at most until it is over. It may have to do the whole queue. -/
def workLeft (rows : Nat) (b : Board) (worker : Worker Memory.Cursor) : Nat :=
  if worker.isOver then 0
  else b.queue.length * (Sweep.enough 1 rows rows + 5) + worker.stepsLeft rows

def State.workLeft (rows : Nat) (s : State Memory.Cursor) (id : Nat) : Nat :=
  match s.workers[id]? with
  | some worker => Purge.workLeft rows s.board worker
  | none => 0

/-- A purge comes to its end by a schedule, with a summary. -/
def Completes (uids : UidTable) (done : List String) (o : Options) (schedule : List Nat)
    (m : Memory) (summary : Summary) (m' : Memory) : Prop :=
  ∃ skipped s s', (prepare (Memory.world uids done) o).run.run m = (.ok (skipped, s), m) ∧
    (follow (Memory.world uids done) o schedule s).run m = (s', m') ∧ s'.isOver = true ∧
    (summarize skipped s').1 = summary

theorem Worker.isOver_of_stepsLeft {rows : Nat} {worker : Worker Memory.Cursor}
    (h : worker.stepsLeft rows = 0) : worker.isOver = true := by
  cases worker with
  | stopped | dead f => rfl
  | _ => cases h

theorem workLeft_mono {b b' : Board} (hqueue : b'.queue.length ≤ b.queue.length) (rows : Nat)
    (worker : Worker Memory.Cursor) : workLeft rows b' worker ≤ workLeft rows b worker := by
  unfold workLeft
  split
  · exact Nat.le_refl 0
  · exact Nat.add_le_add_right (Nat.mul_le_mul_right _ hqueue) _

section Acts

variable {uids : UidTable} {o : Options} {id : Nat} {b b' : Board} {m m' : Memory}
  {worker worker' : Worker Memory.Cursor} {rows : Nat}

theorem Acts.rows_length_le (h : Acts uids.directory o id b m worker worker' b' m') :
    m'.rows.length ≤ m.rows.length := by
  rw [h.loses.rows]
  exact List.length_filter_le _ _

theorem Acts.queue_length_le (h : Acts uids.directory o id b m worker worker' b' m') :
    b'.queue.length ≤ b.queue.length := by
  cases h with
  | claim hqueue =>
      rw [hqueue]
      exact Nat.le_succ _
  | note => exact Nat.le_of_eq (congrArg List.length (Worker.afterEntry_queue o b worker))
  | _ => exact Nat.le_refl _

theorem workLeft_lt {b b' : Board} {worker worker' : Worker Memory.Cursor}
    (hqueue : b'.queue.length ≤ b.queue.length) (hover : worker.isOver = false)
    (hsteps : worker'.stepsLeft rows < worker.stepsLeft rows) :
    workLeft rows b' worker' < workLeft rows b worker := by
  have hmore := Nat.mul_le_mul_right (Sweep.enough 1 rows rows + 5) hqueue
  unfold workLeft
  rw [hover]
  split
  · simp only [Bool.false_eq_true, if_false]
    omega
  · simp only [Bool.false_eq_true, if_false]
    omega

/-- Every step of a worker that is not over brings it nearer to its end. -/
theorem Acts.workLeft_lt (h : Acts uids.directory o id b m worker worker' b' m')
    (hstop : Aggregator.ofWord? o.stop = none) (hrows : m.rows.length ≤ rows)
    (hover : worker.isOver = false) : workLeft rows b' worker' < workLeft rows b worker := by
  have hqueue := h.queue_length_le
  cases h with
  | claim hclaimed =>
      -- The metric leaves the queue, which pays for all the steps that it will take.
      simp only [workLeft, Worker.isOver, Worker.stepsLeft, hclaimed, List.length_cons,
        Nat.add_mul, Nat.one_mul, Bool.false_eq_true, if_false]
      omega
  | stop => exact Purge.workLeft_lt hqueue hover Nat.one_pos
  | note hentry _ =>
      cases worker with
      | announcing | confirming | rejecting =>
          exact Purge.workLeft_lt hqueue hover (Nat.lt_succ_self _)
      | _ => cases hentry
  | die hentry _ =>
      cases worker with
      | announcing | confirming | rejecting =>
          exact Purge.workLeft_lt hqueue hover (Nat.succ_pos _)
      | _ => cases hentry
  | read hread =>
      obtain ⟨q, rfl, -⟩ := read_words uids hstop hread
      exact Purge.workLeft_lt hqueue hover (Nat.lt_succ_self _)
  | misread =>
      refine Purge.workLeft_lt hqueue hover ?_
      simp only [Worker.stepsLeft]
      omega
  | @sweep name begun sweep _ _ hrunning hmoves =>
      refine Purge.workLeft_lt hqueue hover (Nat.add_lt_add_right ?_ 3)
      refine hmoves.stepsLeft_lt hrows ?_
      intro hzero
      obtain ⟨result, hphase⟩ := Sweep.Phase.ended_of_stepsLeft hzero
      rw [Sweep.State.result?_eq_some.mpr hphase] at hrunning
      cases hrunning
  | finish | giveUp =>
      refine Purge.workLeft_lt hqueue hover ?_
      simp only [Worker.stepsLeft]
      omega
  | rest hrest =>
      rw [hover] at hrest
      cases hrest

theorem Acts.workLeft_le (h : Acts uids.directory o id b m worker worker' b' m')
    (hstop : Aggregator.ofWord? o.stop = none) (hrows : m.rows.length ≤ rows) :
    workLeft rows b' worker' ≤ workLeft rows b worker - 1 := by
  cases hover : worker.isOver with
  | false => exact Nat.le_sub_one_of_lt (h.workLeft_lt hstop hrows hover)
  | true =>
      cases h with
      | rest => simp [workLeft, hover]
      | note hentry _ | die hentry _ =>
          cases worker with
          | stopped | dead f => cases hentry
          | _ => cases hover
      | _ => cases hover

end Acts

theorem getElem?_others {α : Type} {before after : List α} {a a' : α} {other : Nat}
    (h : other ≠ before.length) :
    (before ++ a' :: after)[other]? = (before ++ a :: after)[other]? := by
  rw [List.getElem?_append, List.getElem?_append]
  split
  · rfl
  · have hpos : other - before.length = other - before.length - 1 + 1 := by omega
    rw [hpos, List.getElem?_cons_succ, List.getElem?_cons_succ]

section Run

variable {uids : UidTable} {o : Options} (done : List String) {rows : Nat}
  {s : State Memory.Cursor} {m : Memory}

theorem step_workLeft (hstop : Aggregator.ofWord? o.stop = none) (id : Nat)
    (hrows : m.rows.length ≤ rows) :
    ∃ s' m', (step (Memory.world uids done) o id s).run m = (s', m') ∧
      m'.rows.length ≤ rows ∧
      ∀ other, s'.workLeft rows other ≤ s.workLeft rows other - [id].count other := by
  rcases step_acts uids done o id s m with ⟨hnone, hstep⟩ |
    ⟨b, before, worker, after, worker', b', m', rfl, rfl, hstep, hacts⟩
  · refine ⟨s, m, hstep, hrows, ?_⟩
    intro other
    by_cases hself : other = id
    · simp [State.workLeft, hself, hnone]
    · simp [Ne.symm hself]
  · refine ⟨_, m', hstep, Nat.le_trans hacts.rows_length_le hrows, ?_⟩
    intro other
    by_cases hself : other = before.length
    · subst hself
      simpa [State.workLeft] using hacts.workLeft_le hstop hrows
    · have hcount : [before.length].count other = 0 := by simp [Ne.symm hself]
      rw [hcount, State.workLeft, State.workLeft, getElem?_others (a := worker) hself]
      cases (before ++ worker :: after)[other]? with
      | none => exact Nat.le_refl 0
      | some bystander => exact workLeft_mono hacts.queue_length_le rows bystander

theorem follow_workLeft (hstop : Aggregator.ofWord? o.stop = none) (schedule : List Nat)
    (hrows : m.rows.length ≤ rows) :
    ∃ s' m', (follow (Memory.world uids done) o schedule s).run m = (s', m') ∧
      ∀ id, s'.workLeft rows id ≤ s.workLeft rows id - schedule.count id := by
  induction schedule generalizing s m with
  | nil => exact ⟨s, m, rfl, fun id => Nat.le_refl _⟩
  | cons first schedule ih =>
      obtain ⟨s₁, m₁, hstep, hrows₁, hleft₁⟩ := step_workLeft done hstop first hrows
      obtain ⟨s', m', hfollow, hleft⟩ := ih (s := s₁) hrows₁
      refine ⟨s', m', ?_, ?_⟩
      · rw [follow_cons_run, hstep]
        exact hfollow
      · intro id
        have hbefore := hleft₁ id
        have hafter := hleft id
        rw [List.count_cons]
        rw [List.count_singleton] at hbefore
        omega

theorem isOver_of_workLeft (rows : Nat) (h : ∀ id < s.workers.length, s.workLeft rows id = 0) :
    s.isOver = true := by
  apply List.all_eq_true.mpr
  intro worker hworker
  obtain ⟨id, hid, hget⟩ := List.mem_iff_getElem.mp hworker
  have hzero := h id hid
  rw [State.workLeft, List.getElem?_eq_getElem hid, hget] at hzero
  cases hover : worker.isOver with
  | true => rfl
  | false =>
      simp only [workLeft, hover, Bool.false_eq_true, if_false] at hzero
      have hsteps := Worker.isOver_of_stepsLeft (Nat.eq_zero_of_add_eq_zero_left hzero)
      rw [hover] at hsteps
      cases hsteps

theorem outset_workLeft (m : Memory) (id : Nat) :
    (outset uids done o).workLeft m.rows.length id ≤ Memory.enough uids m := by
  have hqueue : (toDo uids done o).length ≤ uids.metrics.length := by
    refine Nat.le_trans (List.length_filter_le _ _) ?_
    rw [UidTable.matching, UidTable.sorted, List.length_mergeSort]
    exact Nat.le_trans (List.length_filter_le _ _) (Nat.le_of_eq (List.length_map _))
  have hmore := Nat.mul_le_mul_right (Sweep.enough 1 m.rows.length m.rows.length + 5) hqueue
  have henough : Memory.enough uids m =
      uids.metrics.length * (Sweep.enough 1 m.rows.length m.rows.length + 5) +
        uids.metrics.length * 3 + (Sweep.enough 1 m.rows.length m.rows.length + 8) := by
    rw [Memory.enough, Nat.add_mul, ← Nat.mul_add, Nat.one_mul]
  unfold State.workLeft
  split
  · rename_i worker hworker
    obtain rfl : worker = .idle := (List.mem_replicate.mp (List.mem_of_getElem? hworker)).2
    rw [henough]
    change (toDo uids done o).length * _ + 1 ≤ _
    omega
  · exact Nat.zero_le _

theorem completes_iff {schedule : List Nat} {m m' : Memory} {summary : Summary} :
    Completes uids done o schedule m summary m' ↔
      ∃ s', (follow (Memory.world uids done) o schedule (outset uids done o)).run m = (s', m') ∧
        s'.isOver = true ∧
        (summarize ((uids.matching o.opening).length - (toDo uids done o).length) s').1 =
          summary := by
  constructor
  · rintro ⟨skipped, s, s', hprepare, hfollow, hover, hsummary⟩
    rw [prepare_run] at hprepare
    cases hprepare
    exact ⟨s', hfollow, hover, hsummary⟩
  · rintro ⟨s', hfollow, hover, hsummary⟩
    exact ⟨_, _, s', prepare_run uids done o m, hfollow, hover, hsummary⟩

theorem Completes.course {schedule : List Nat} {m' : Memory} {summary : Summary}
    (h : Completes uids done o schedule m summary m')
    (hnames : (uids.metrics.map Prod.fst).Nodup) (hstop : Aggregator.ofWord? o.stop = none) :
    ∃ s' added account,
      Course uids o (presents uids done o schedule m) (toDo uids done o) m s' m' added account ∧
      s'.isOver = true ∧
      (summarize ((uids.matching o.opening).length - (toDo uids done o).length) s').1 =
        summary := by
  obtain ⟨s', hfollow, hover, hsummary⟩ := (completes_iff done).mp h
  obtain ⟨s₁, m₁, added, account, hrun, hcourse⟩ := follow_course done hnames hstop m schedule
  rw [hfollow] at hrun
  cases hrun
  exact ⟨s', added, account, hcourse, hover, hsummary⟩

theorem follow_isOver (hstop : Aggregator.ofWord? o.stop = none) (m : Memory)
    {schedule : List Nat} (hfair : ∀ id < o.workers, Memory.enough uids m ≤ schedule.count id) :
    ((follow (Memory.world uids done) o schedule (outset uids done o)).run m).1.isOver = true := by
  obtain ⟨s', m', hfollow, hleft⟩ :=
    follow_workLeft done hstop schedule (s := outset uids done o) (Nat.le_refl m.rows.length)
  have hcrew := follow_workers_length o (Memory.world uids done) schedule (outset uids done o) m
  rw [hfollow] at hcrew ⊢
  refine isOver_of_workLeft m.rows.length ?_
  intro id hid
  have hworker : id < o.workers := by
    rw [hcrew] at hid
    simpa [outset] using hid
  have hsteps := hleft id
  have hstart : (outset uids done o).workLeft m.rows.length id ≤ Memory.enough uids m :=
    outset_workLeft done m id
  have hcount := hfair id hworker
  change s'.workLeft m.rows.length id = 0
  omega

/-- A schedule that gives steps enough to every worker brings the purge to its end. -/
theorem completes_of_fair (hstop : Aggregator.ofWord? o.stop = none) (m : Memory)
    {schedule : List Nat} (hfair : ∀ id < o.workers, Memory.enough uids m ≤ schedule.count id) :
    ∃ summary m', Completes uids done o schedule m summary m' :=
  ⟨_, _, (completes_iff done).mpr ⟨_, rfl, follow_isOver done hstop m hfair, rfl⟩⟩

theorem purge_run (uids : UidTable) (o : Options) (m : Memory) :
    (Memory.purge uids done o).run.run m =
      (.ok (summarize ((uids.matching o.opening).length - (toDo uids done o).length)
          ((rounds (Memory.world uids done) o (Memory.enough uids m) (Memory.enough uids m + 1)
            (outset uids done o)).run m).1),
        ((rounds (Memory.world uids done) o (Memory.enough uids m) (Memory.enough uids m + 1)
          (outset uids done o)).run m).2) :=
  rfl

theorem purge_completes (uids : UidTable) (hstop : Aggregator.ofWord? o.stop = none) (m : Memory) :
    ∃ schedule summary notices m', Completes uids done o schedule m summary m' ∧
      (Memory.purge uids done o).run.run m = (.ok (summary, notices), m') := by
  have hsteps : Memory.enough uids m ≠ 0 := by
    rw [Memory.enough, Nat.add_mul]
    omega
  obtain ⟨schedule, hrounds, hend⟩ := rounds_follow o (Memory.world uids done) hsteps
    (Memory.enough uids m + 1) (outset uids done o) m
  have hover : ((follow (Memory.world uids done) o schedule (outset uids done o)).run m).1.isOver =
      true := by
    rcases hend with hover | hcount
    · exact hover
    · apply follow_isOver done hstop m
      intro id hid
      have hrun := hcount id (by simpa [outset] using hid)
      omega
  have hpurge := purge_run done uids o m
  rw [hrounds] at hpurge
  exact ⟨schedule, _, _, _, (completes_iff done).mpr ⟨_, rfl, hover, rfl⟩, hpurge⟩

end Run

end Purge

end RawSeries
