import RawSeries.Proofs.PurgeDates

/-!
The records of a purge can be trusted at any moment, in whatever order the workers take their steps:
a metric is recorded as done only when its rows are gone.
-/

namespace RawSeries.Purge

section Observations

variable {σ γ : Type}

/-- The metric that a worker has taken from the queue. -/
def Worker.metric? : Worker γ → Option String
  | .announcing metric => some metric
  | .reading metric _ => some metric
  | .sweeping metric _ _ => some metric
  | .confirming metric _ _ => some metric
  | .rejecting metric _ _ => some metric
  | _ => none

/-- The page that a sweep receives between two phases. -/
def pageBetween (before after : Sweep.Phase γ) : List Row :=
  match before, after with
  | .fetching .., .handling _ page _ => page
  | _, _ => []

/-- The page that the scan of a metric hands out in a step of a worker. -/
def handedBy (metric : String) (before after : Worker γ) : List Row :=
  match before, after with
  | .sweeping name _ sweep, .sweeping _ _ sweep' =>
      if name = metric then pageBetween sweep.phase sweep'.phase else []
  | _, _ => []

def handedIn (metric : String) (id : Nat) (s s' : State γ) : List Row :=
  match s.workers[id]?, s'.workers[id]? with
  | some before, some after => handedBy metric before after
  | _, _ => []

/-- The rows that the scan of a metric hands out in the steps of a schedule. -/
def handedOut (w : World σ γ) (o : Options) (metric : String) :
    List Nat → State γ → StateM σ (List Row)
  | [], _ => return []
  | id :: schedule, s => do
      let s' ← step w o id s
      let rows ← handedOut w o metric schedule s'
      return handedIn metric id s s' ++ rows

end Observations

def statuses (metric : String) (records : List Record) : List Status :=
  (records.filter fun r => r.metric == metric).map Record.status

/-- The rows that a query covers are among some rows that wait. -/
def Within (q : Query) (rows waiting : List Row) : Prop :=
  ∀ row ∈ rows, q.covers row.key = true → row ∈ waiting

/-- What holds in each phase of a deleting sweep for one query, of the rows in the table, of the
number of rows that its scan has handed out and of the number of those that were begun. -/
def SweepsOne (q : Query) (rows : List Row) (handed begun : Nat) :
    Sweep.Phase Memory.Cursor → Prop
  | .opening [] => begun = handed ∧ Within q rows []
  | .opening (first :: queries) => first = q ∧ queries = [] ∧ begun = 0 ∧ handed = 0
  | .fetching cursor queries =>
      queries = [] ∧ begun = handed ∧ Within q rows cursor.pages.flatten
  | .handling cursor page queries =>
      queries = [] ∧ begun + page.length = handed ∧ Within q rows (page ++ cursor.pages.flatten)
  | .closing _ none queries => queries = [] ∧ begun = handed ∧ Within q rows []
  | .closing _ (some _) _ => True
  | .ended (.ok touched) => touched = handed ∧ Within q rows []
  | .ended (.error _) => True

/-- What holds of a worker, of the statuses that are recorded of its metric and of the rows that
were handed out for it. -/
def Worker.Stands (uids : UidTable) (o : Options) (times : String → Quantity) (rows : List Row)
    (history : List Status) (handed : List Row) : Worker Memory.Cursor → Prop
  | .announcing _ => history = [] ∧ handed = []
  | .reading _ _ => history = [.started] ∧ handed = []
  | .sweeping metric _ sweep => history = [.started] ∧
      ∃ q, IsQueryOf uids o (times metric) metric q ∧
        SweepsOne q rows handed.length sweep.rows sweep.phase
  | .confirming metric touched _ => history = [.started] ∧ touched = handed.length ∧
      ∃ q, IsQueryOf uids o (times metric) metric q ∧ Within q rows []
  | .rejecting .. => history = [.started]
  | _ => True

theorem statuses_append (metric : String) (records more : List Record) :
    statuses metric (records ++ more) = statuses metric records ++ statuses metric more := by
  simp only [statuses, List.filter_append, List.map_append]

theorem statuses_eq_nil {metric : String} {records : List Record}
    (h : ∀ r ∈ records, r.metric ≠ metric) : statuses metric records = [] := by
  unfold statuses
  rw [List.filter_eq_nil_iff.mpr fun r hr => by simpa using h r hr]
  rfl

theorem mem_statuses {r : Record} {records : List Record} (h : r ∈ records) :
    r.status ∈ statuses r.metric records :=
  List.mem_map_of_mem (List.mem_filter.mpr ⟨h, by simp⟩)

theorem Within.mono {q : Query} {rows rows' waiting : List Row} (h : Within q rows waiting)
    (hrows : ∀ row ∈ rows', row ∈ rows) : Within q rows' waiting :=
  fun row hrow hcovers => h row (hrows row hrow) hcovers

theorem SweepsOne.mono {q : Query} {rows rows' : List Row} {handed begun : Nat}
    {phase : Sweep.Phase Memory.Cursor} (h : SweepsOne q rows handed begun phase)
    (hrows : ∀ row ∈ rows', row ∈ rows) : SweepsOne q rows' handed begun phase := by
  cases phase with
  | opening queries =>
      cases queries with
      | nil => exact ⟨h.1, h.2.mono hrows⟩
      | cons first queries => exact h
  | fetching cursor queries => exact ⟨h.1, h.2.1, h.2.2.mono hrows⟩
  | handling cursor page queries => exact ⟨h.1, h.2.1, h.2.2.mono hrows⟩
  | closing cursor failure queries =>
      cases failure with
      | none => exact ⟨h.1, h.2.1, h.2.2.mono hrows⟩
      | some f => trivial
  | ended result =>
      cases result with
      | ok touched => exact ⟨h.1, h.2.mono hrows⟩
      | error f => trivial

theorem Worker.Stands.mono {uids : UidTable} {o : Options} {times : String → Quantity}
    {rows rows' : List Row} {history : List Status} {handed : List Row}
    {worker : Worker Memory.Cursor} (h : worker.Stands uids o times rows history handed)
    (hrows : ∀ row ∈ rows', row ∈ rows) :
    worker.Stands uids o times rows' history handed := by
  cases worker with
  | sweeping metric begun sweep =>
      obtain ⟨hhistory, q, hq, hsweep⟩ := h
      exact ⟨hhistory, q, hq, hsweep.mono hrows⟩
  | confirming metric touched spent =>
      obtain ⟨hhistory, htouched, q, hq, hnone⟩ := h
      exact ⟨hhistory, htouched, q, hq, hnone.mono hrows⟩
  | _ => exact h

theorem Within.handled {q : Query} {row : Row} {rows waiting : List Row}
    (h : Within q rows (row :: waiting)) : Within q (Memory.without [row] rows) waiting := by
  intro other hother hcovers
  obtain ⟨hmem, hkey⟩ := List.mem_filter.mp hother
  rcases List.mem_cons.mp (h other hmem hcovers) with rfl | hwaits
  · simp at hkey
  · exact hwaits

open Sweep (Moves) in
/-- Every move of a deleting sweep keeps its count of rows and its claim on those that are left. -/
theorem SweepsOne.move {o : Sweep.Options} {d : Directory (Except Fault)}
    {s s' : Sweep.State Memory.Cursor} {m m' : Memory} {q : Query} {handed : Nat}
    (hmoves : Moves o d s m s' m') (hdelete : o.delete = true) (hsize : 0 ≤ m.pageSize)
    (h : SweepsOne q m.rows handed s.rows s.phase) :
    SweepsOne q m'.rows (handed + (pageBetween s.phase s'.phase).length) s'.rows s'.phase := by
  cases hmoves with
  | finish hphase hnext _ =>
      rw [hphase] at h ⊢
      rw [hnext]
      exact h
  | refuse hphase _ hnext _ =>
      rw [hnext]
      trivial
  | begin hphase hoffer hnext hkept =>
      rw [hphase] at h ⊢
      obtain ⟨rfl, rfl, hbegun, hhanded⟩ := h
      rw [hnext, hkept.rows]
      refine ⟨rfl, by rw [hbegun, hhanded]; rfl, ?_⟩
      intro row hrow hcovers
      rw [Memory.offered_flatten hsize hoffer]
      exact List.mem_filter.mpr ⟨hrow, hcovers⟩
  | fetch hphase hnext hkept =>
      rw [hphase] at h ⊢
      obtain ⟨hqueries, hbegun, hwithin⟩ := h
      rw [hnext, hkept.rows]
      exact ⟨hqueries, by rw [hbegun]; rfl, hwithin⟩
  | exhaust hphase hnext hkept =>
      rw [hphase] at h ⊢
      rw [hnext, hkept.rows]
      exact h
  | turn hphase hnext hkept =>
      rw [hphase] at h ⊢
      rw [hnext, hkept.rows]
      exact h
  | unreadable hphase _ hnext _ _ =>
      rw [hnext]
      trivial
  | held hphase _ _ _ hnext _ _ =>
      rw [hnext]
      trivial
  | handle hphase _ hnext hrows _ =>
      rw [hphase] at h ⊢
      obtain ⟨hqueries, hbegun, hwithin⟩ := h
      rw [hnext, hrows]
      refine ⟨hqueries, ?_, ?_⟩
      · rw [← hbegun, List.length_cons]
        change _ = _ + 0
        omega
      · rw [Sweep.Options.rid, if_pos hdelete]
        exact hwithin.handled
  | close hphase hnext hkept =>
      rw [hphase] at h ⊢
      obtain ⟨rfl, hbegun, hwithin⟩ := h
      rw [hnext, hkept.rows]
      exact ⟨hbegun, hwithin⟩
  | abort hphase hnext _ =>
      rw [hnext]
      trivial
  | @rest result hphase hnext _ =>
      rw [hphase] at h ⊢
      rw [hnext]
      cases result with
      | ok touched => exact h
      | error f => trivial

section Acts

variable {uids : UidTable} {o : Options} {times : String → Quantity} {id : Nat} {b b' : Board}
  {m m' : Memory} {worker worker' : Worker Memory.Cursor}

def Worker.entries (o : Options) (b : Board) (m : Memory) (worker : Worker Memory.Cursor) :
    List Record :=
  match worker.entry o b with
  | some r => if m.heldRecords.contains (r.metric, r.status) then [] else [r]
  | none => []

theorem entries_eq_nil (h : worker.entry o b = none) : worker.entries o b m = [] := by
  rw [Worker.entries, h]

theorem entry_of_mem_entries {r : Record} (h : r ∈ worker.entries o b m) :
    worker.entry o b = some r := by
  unfold Worker.entries at h
  split at h
  case h_1 entry hentry =>
      split at h
      · exact absurd h List.not_mem_nil
      · rw [hentry, List.mem_singleton.mp h]
  case h_2 => exact absurd h List.not_mem_nil

theorem metric_of_entry {r : Record} (h : worker.entry o b = some r) :
    worker.metric? = some r.metric := by
  cases worker with
  | announcing metric | confirming metric rows spent | rejecting metric fault spent =>
      cases h
      rfl
  | _ => cases h

theorem metric_of_mem_entries {r : Record} (h : r ∈ worker.entries o b m) :
    worker.metric? = some r.metric :=
  metric_of_entry (entry_of_mem_entries h)

theorem Acts.memory (h : Acts uids.directory o id b m worker worker' b' m') :
    m'.records = m.records ++ worker.entries o b m ∧ m'.pageSize = m.pageSize ∧
      ∀ row ∈ m'.rows, row ∈ m.rows := by
  cases h with
  | note hentry hheld =>
      refine ⟨?_, rfl, fun row hrow => hrow⟩
      simp only [Worker.entries, hentry, hheld]
      rfl
  | die hentry hheld =>
      refine ⟨?_, rfl, fun row hrow => hrow⟩
      simp only [Worker.entries, hentry, hheld, if_true, List.append_nil]
  | sweep _ hmoves =>
      rw [entries_eq_nil rfl, List.append_nil]
      exact hmoves.memory
  | rest hover =>
      have hentry : worker.entry o b = none := by
        cases worker with
        | stopped | dead f => rfl
        | _ => cases hover
      rw [entries_eq_nil hentry, List.append_nil]
      exact ⟨rfl, rfl, fun row hrow => hrow⟩
  | _ =>
      rw [entries_eq_nil rfl, List.append_nil]
      exact ⟨rfl, rfl, fun row hrow => hrow⟩

theorem Acts.count_le (h : Acts uids.directory o id b m worker worker' b' m') (metric : String) :
    b'.queue.count metric + worker'.metric?.toList.count metric ≤
      b.queue.count metric + worker.metric?.toList.count metric := by
  cases h with
  | @claim name queue hqueue =>
      rw [hqueue]
      change queue.count metric + [name].count metric ≤ (name :: queue).count metric + 0
      rw [List.count_cons, List.count_cons, List.count_nil]
      omega
  | note hentry _ =>
      cases worker with
      | announcing name => exact Nat.le_refl _
      | confirming name rows spent | rejecting name fault spent => exact Nat.le_add_right _ _
      | _ => cases hentry
  | die => exact Nat.le_add_right _ _
  | stop => exact Nat.le_refl _
  | read => exact Nat.le_refl _
  | misread => exact Nat.le_refl _
  | sweep => exact Nat.le_refl _
  | finish => exact Nat.le_refl _
  | giveUp => exact Nat.le_refl _
  | rest => exact Nat.le_refl _

/-- What a worker stands for after a step, when it stood for the same metric before or has just
taken it from the queue. -/
theorem Acts.stands (h : Acts uids.directory o id b m worker worker' b' m')
    (hstop : Aggregator.ofWord? o.stop = none) (htime : worker.OnTime o times b)
    (hsize : 0 ≤ m.pageSize) {metric : String} {history : List Status} {handed : List Row}
    (hqueued : metric ∈ b.queue → history = [] ∧ handed = [])
    (hstands : worker.metric? = some metric → worker.Stands uids o times m.rows history handed)
    (hmetric : worker'.metric? = some metric) :
    worker'.Stands uids o times m'.rows (history ++ statuses metric (worker.entries o b m))
      (handed ++ handedBy metric worker worker') := by
  cases h with
  | stop => cases hmetric
  | claim hqueue =>
      cases hmetric
      obtain ⟨rfl, rfl⟩ := hqueued (by rw [hqueue]; exact List.mem_cons_self)
      exact ⟨rfl, rfl⟩
  | note hentry hheld =>
      cases worker with
      | announcing name =>
          cases hmetric
          obtain ⟨rfl, rfl⟩ := hstands rfl
          cases hentry
          refine ⟨?_, rfl⟩
          simp only [Worker.entries, Worker.entry, hheld]
          simp [statuses, record]
      | confirming name rows spent | rejecting name fault spent => cases hmetric
      | _ => cases hentry
  | die => cases hmetric
  | read hread =>
      cases hmetric
      obtain ⟨rfl, rfl⟩ := hstands rfl
      obtain ⟨q, rfl, hq⟩ := read_words uids hstop hread
      exact ⟨rfl, q, htime _ rfl ▸ hq, rfl, rfl, rfl, rfl⟩
  | misread =>
      cases hmetric
      obtain ⟨rfl, -⟩ := hstands rfl
      rfl
  | @sweep name begun sweep sweep' _ hrunning hmoves =>
      cases hmetric
      obtain ⟨rfl, q, hq, hsweep⟩ := hstands rfl
      refine ⟨rfl, q, hq, ?_⟩
      have hmove := hsweep.move hmoves rfl hsize
      rw [List.length_append, handedBy, if_pos rfl]
      exact hmove
  | @finish name begun sweep rows hresult =>
      cases hmetric
      obtain ⟨rfl, q, hq, hsweep⟩ := hstands rfl
      rw [Sweep.State.result?_eq_some.mp hresult] at hsweep
      obtain ⟨rfl, hnone⟩ := hsweep
      exact ⟨rfl, congrArg List.length (List.append_nil handed).symm, q, hq, hnone⟩
  | @giveUp name begun sweep f hresult =>
      cases hmetric
      obtain ⟨rfl, -⟩ := hstands rfl
      rfl
  | rest hover =>
      cases worker with
      | stopped | dead f => cases hmetric
      | _ => cases hover

end Acts

/-- The metrics that are waiting in the queue or worked on. -/
def State.pending (s : State Memory.Cursor) : List String :=
  s.board.queue ++ s.workers.filterMap Worker.metric?

theorem State.mem_pending {s : State Memory.Cursor} {worker : Worker Memory.Cursor}
    {metric : String} (hworker : worker ∈ s.workers) (h : worker.metric? = some metric) :
    metric ∈ s.pending :=
  List.mem_append_right _ (List.mem_filterMap.mpr ⟨worker, hworker, h⟩)

/-- What holds at any moment of a purge that began with some records in memory: of the state, of the
records that were added and of the rows that were handed out for each metric. -/
structure Honest (uids : UidTable) (done : List String) (o : Options) (times : String → Quantity)
    (base : List Record) (s : State Memory.Cursor) (m : Memory) (added : List Record)
    (handed : String → List Row) : Prop where
  records : m.records = base ++ added
  pageSize : 0 ≤ m.pageSize
  single : s.pending.Nodup
  wanted : ∀ metric ∈ s.pending, metric ∉ done
  queued : ∀ metric ∈ s.board.queue, statuses metric added = [] ∧ handed metric = []
  working : ∀ worker ∈ s.workers, ∀ metric, worker.metric? = some metric →
    worker.Stands uids o times m.rows (statuses metric added) (handed metric)
  history : ∀ metric, statuses metric added <+: [.started, .done] ∨
    statuses metric added <+: [.started, .failed]
  skipped : ∀ metric ∈ done, statuses metric added = []
  finished : ∀ r ∈ added, r.status = .done → r.rows = .whole (handed r.metric).length ∧
    ∃ q, IsQueryOf uids o (times r.metric) r.metric q ∧ Within q m.rows []

section Step

variable {uids : UidTable} {done : List String} {o : Options} {times : String → Quantity} {id : Nat}
  {base added : List Record} {handed : String → List Row} {b b' : Board} {m m' : Memory}
  {worker worker' : Worker Memory.Cursor} {before after : List (Worker Memory.Cursor)}

theorem count_pending (metric : String) :
    (State.pending ⟨b, before ++ worker :: after⟩).count metric =
      b.queue.count metric + worker.metric?.toList.count metric +
        ((before ++ after).filterMap Worker.metric?).count metric :=
  count_tasks Worker.metric? b.queue before after worker metric

theorem statuses_entries_eq_nil {metric : String} (h : worker.metric? ≠ some metric) :
    statuses metric (worker.entries o b m) = [] :=
  statuses_eq_nil fun _ hr hmetric => h (hmetric ▸ metric_of_mem_entries hr)

theorem handedBy_eq_nil {metric : String} (h : worker.metric? ≠ some metric) :
    handedBy metric worker worker' = [] := by
  cases worker with
  | sweeping name begun sweep =>
      cases worker' with
      | sweeping name' begun' sweep' =>
          rw [handedBy, if_neg]
          rintro rfl
          exact h rfl
      | _ => rfl
  | _ => rfl

theorem Acts.mem_queue (h : Acts uids.directory o id b m worker worker' b' m') {metric : String}
    (hmetric : metric ∈ b'.queue) : metric ∈ b.queue := by
  cases h with
  | claim hqueue =>
      rw [hqueue]
      exact List.mem_cons_of_mem _ hmetric
  | note =>
      rw [Worker.afterEntry_queue] at hmetric
      exact hmetric
  | _ => exact hmetric

theorem statuses_entries (o : Options) (m : Memory) (worker : Worker Memory.Cursor)
    (metric : String) : statuses metric (worker.entries o b m) = [] ∨
      ∃ r, worker.entry o b = some r ∧ statuses metric (worker.entries o b m) = [r.status] := by
  cases hentry : worker.entry o b with
  | none =>
      rw [entries_eq_nil hentry]
      exact .inl rfl
  | some r =>
      simp only [Worker.entries, hentry]
      split
      · exact .inl rfl
      · by_cases hmetric : r.metric = metric
        · exact .inr ⟨r, rfl, by simp [statuses, hmetric]⟩
        · exact .inl (by simp [statuses, hmetric])

theorem Worker.Stands.history {rows : List Row} {metric : String} {history : List Status}
    {taken : List Row} (h : worker.Stands uids o times rows history taken)
    (hbefore : history <+: [.started, .done] ∨ history <+: [.started, .failed]) :
    history ++ statuses metric (worker.entries o b m) <+: [.started, .done] ∨
      history ++ statuses metric (worker.entries o b m) <+: [.started, .failed] := by
  rcases statuses_entries o m worker metric with hnone | ⟨r, hentry, hone⟩
  · rw [hnone, List.append_nil]
    exact hbefore
  · rw [hone]
    cases worker with
    | announcing name =>
        obtain ⟨rfl, -⟩ := h
        cases hentry
        exact .inl ⟨[.done], rfl⟩
    | confirming name touched spent =>
        obtain ⟨rfl, -⟩ := h
        cases hentry
        exact .inl ⟨[], rfl⟩
    | rejecting name fault spent =>
        obtain rfl := h
        cases hentry
        exact .inr ⟨[], rfl⟩
    | _ => cases hentry

theorem Worker.Stands.not_done {rows : List Row} {history : List Status} {taken : List Row}
    {metric : String} (h : worker.Stands uids o times rows history taken)
    (hmetric : worker.metric? = some metric) : .done ∉ history := by
  cases worker with
  | announcing name | reading name begun | sweeping name begun sweep
  | confirming name touched spent =>
      obtain ⟨rfl, -⟩ := h
      decide
  | rejecting name fault spent =>
      obtain rfl := h
      decide
  | _ => cases hmetric

theorem pending_apart (hsingle : (State.pending ⟨b, before ++ worker :: after⟩).Nodup)
    {metric : String} (hmetric : metric ∈ b.queue ∨
      ∃ other ∈ before ++ after, other.metric? = some metric) : worker.metric? ≠ some metric := by
  intro hworker
  have hcount := List.nodup_iff_count.mp hsingle metric
  rw [count_pending, hworker] at hcount
  have hone : (some metric).toList.count metric = 1 := List.count_singleton_self
  rcases hmetric with hqueue | ⟨other, hother, hsome⟩
  · have hpos := List.count_pos_iff.mpr hqueue
    omega
  · have hmem : metric ∈ (before ++ after).filterMap Worker.metric? :=
      List.mem_filterMap.mpr ⟨other, hother, hsome⟩
    have hpos := List.count_pos_iff.mpr hmem
    omega

theorem untouched {metric : String} (hmetric : worker.metric? ≠ some metric) :
    statuses metric (added ++ worker.entries o b m) = statuses metric added ∧
      handed metric ++ handedBy metric worker worker' = handed metric := by
  rw [statuses_append, statuses_entries_eq_nil hmetric, handedBy_eq_nil hmetric,
    List.append_nil, List.append_nil]
  exact ⟨rfl, rfl⟩

theorem Acts.pending (h : Acts uids.directory o id b m worker worker' b' m')
    (hsingle : (State.pending ⟨b, before ++ worker :: after⟩).Nodup) :
    (State.pending ⟨b', before ++ worker' :: after⟩).Nodup ∧
      ∀ metric ∈ State.pending ⟨b', before ++ worker' :: after⟩,
        metric ∈ State.pending ⟨b, before ++ worker :: after⟩ := by
  have hcount : ∀ metric, (State.pending ⟨b', before ++ worker' :: after⟩).count metric ≤
      (State.pending ⟨b, before ++ worker :: after⟩).count metric := by
    intro metric
    rw [count_pending, count_pending]
    exact Nat.add_le_add_right (h.count_le metric) _
  constructor
  · apply List.nodup_iff_count.mpr
    intro metric
    exact Nat.le_trans (hcount metric) (List.nodup_iff_count.mp hsingle metric)
  · intro metric hmetric
    have hpos := List.count_pos_iff.mpr hmetric
    exact List.count_pos_iff.mp (Nat.lt_of_lt_of_le hpos (hcount metric))

theorem mem_others_or_eq {other : Worker Memory.Cursor}
    (h : other ∈ before ++ worker :: after) : other ∈ before ++ after ∨ other = worker := by
  rcases List.mem_append.mp h with hbefore | hafter
  · exact .inl (List.mem_append_left _ hbefore)
  · rcases List.mem_cons.mp hafter with hself | hafter
    · exact .inr hself
    · exact .inl (List.mem_append_right _ hafter)

theorem mem_of_mem_others {other : Worker Memory.Cursor} (h : other ∈ before ++ after) :
    other ∈ before ++ worker :: after := by
  rcases List.mem_append.mp h with hbefore | hafter
  · exact List.mem_append_left _ hbefore
  · exact List.mem_append_right _ (List.mem_cons_of_mem _ hafter)

theorem Honest.act_working
    (h : Honest uids done o times base ⟨b, before ++ worker :: after⟩ m added handed)
    (hstop : Aggregator.ofWord? o.stop = none) (htime : worker.OnTime o times b)
    (hacts : Acts uids.directory o id b m worker worker' b' m')
    {other : Worker Memory.Cursor} (hother : other ∈ before ++ worker' :: after) {metric : String}
    (hmetric : other.metric? = some metric) :
    other.Stands uids o times m'.rows (statuses metric (added ++ worker.entries o b m))
      (handed metric ++ handedBy metric worker worker') := by
  obtain ⟨-, -, hrows⟩ := hacts.memory
  rcases mem_others_or_eq hother with hself | rfl
  · obtain ⟨hhistory, hhanded⟩ := untouched (pending_apart h.single (.inr ⟨other, hself, hmetric⟩))
    rw [hhistory, hhanded]
    exact (h.working other (mem_of_mem_others hself) metric hmetric).mono hrows
  · rw [statuses_append]
    apply hacts.stands hstop htime h.pageSize (h.queued metric) _ hmetric
    exact h.working worker (by simp) metric

theorem Honest.act_finished
    (h : Honest uids done o times base ⟨b, before ++ worker :: after⟩ m added handed)
    (hacts : Acts uids.directory o id b m worker worker' b' m') {r : Record}
    (hr : r ∈ added ++ worker.entries o b m) (hdone : r.status = .done) :
    r.rows = .whole (handed r.metric ++ handedBy r.metric worker worker').length ∧
      ∃ q, IsQueryOf uids o (times r.metric) r.metric q ∧ Within q m'.rows [] := by
  obtain ⟨-, -, hrows⟩ := hacts.memory
  have hworker : worker ∈ before ++ worker :: after := by simp
  rcases List.mem_append.mp hr with hold | hnew
  · have hmetric : worker.metric? ≠ some r.metric := by
      intro hmetric
      apply (h.working worker hworker r.metric hmetric).not_done hmetric
      rw [← hdone]
      exact mem_statuses hold
    obtain ⟨hcount, q, hq, hnone⟩ := h.finished r hold hdone
    rw [handedBy_eq_nil hmetric, List.append_nil]
    exact ⟨hcount, q, hq, hnone.mono hrows⟩
  · have hstands := h.working worker hworker r.metric (metric_of_mem_entries hnew)
    have hentry := entry_of_mem_entries hnew
    cases worker with
    | confirming name touched spent =>
        cases hentry
        obtain ⟨-, htouched, q, hq, hnone⟩ := hstands
        have hhanded : (handed name).length = touched := htouched.symm
        exact ⟨by simp [record, handedBy, hhanded], q, hq, hnone.mono hrows⟩
    | announcing name | rejecting name fault spent =>
        cases hentry
        cases hdone
    | _ => cases hentry

/-- Every step of a worker keeps the records honest. -/
theorem Honest.act (h : Honest uids done o times base ⟨b, before ++ worker :: after⟩ m added handed)
    (hstop : Aggregator.ofWord? o.stop = none) (htime : worker.OnTime o times b)
    (hacts : Acts uids.directory o id b m worker worker' b' m') :
    Honest uids done o times base ⟨b', before ++ worker' :: after⟩ m' (added ++ worker.entries o b m)
      (fun metric => handed metric ++ handedBy metric worker worker') := by
  obtain ⟨hrecords, hsize, -⟩ := hacts.memory
  -- A metric is pending once at most, so what concerns the other workers is untouched.
  constructor
  case records => rw [hrecords, h.records, List.append_assoc]
  case pageSize =>
      rw [hsize]
      exact h.pageSize
  case single => exact (hacts.pending h.single).1
  case wanted =>
      intro metric hmetric
      exact h.wanted metric ((hacts.pending h.single).2 metric hmetric)
  case queued =>
      intro metric hmetric
      have hqueue := hacts.mem_queue hmetric
      obtain ⟨hhistory, hhanded⟩ := untouched (pending_apart h.single (.inl hqueue))
      rw [hhistory, hhanded]
      exact h.queued metric hqueue
  case working =>
      intro other hother metric hmetric
      exact h.act_working hstop htime hacts hother hmetric
  case history =>
      intro metric
      rw [statuses_append]
      -- Only the metric that the worker was at before its turn can get records in it.
      by_cases hmetric : worker.metric? = some metric
      · exact (h.working worker (by simp) metric hmetric).history (h.history metric)
      · rw [statuses_entries_eq_nil hmetric, List.append_nil]
        exact h.history metric
  case skipped =>
      intro metric hdone
      have hmetric : worker.metric? ≠ some metric := by
        intro hmetric
        exact h.wanted metric (State.mem_pending (by simp) hmetric) hdone
      rw [statuses_append, statuses_entries_eq_nil hmetric, List.append_nil]
      exact h.skipped metric hdone
  case finished =>
      intro r hr hdone
      exact h.act_finished hacts hr hdone

end Step

section Run

variable {uids : UidTable} {done : List String} {o : Options} {times : String → Quantity}
  {base added : List Record} {handed : String → List Row} {s : State Memory.Cursor} {m : Memory}

theorem Honest.step (h : Honest uids done o times base s m added handed)
    (hstop : Aggregator.ofWord? o.stop = none) (id : Nat)
    (htime : ∀ worker, s.workers[id]? = some worker → worker.OnTime o times s.board) :
    ∃ s' m' more, (step (Memory.world uids done) o id s).run m = (s', m') ∧
      Honest uids done o times base s' m' (added ++ more)
        (fun metric => handed metric ++ handedIn metric id s s') := by
  rcases step_acts uids done o id s m with ⟨hnone, hstep⟩ |
    ⟨b, before, worker, after, worker', b', m', rfl, hid, hstep, hacts⟩
  · refine ⟨s, m, [], hstep, ?_⟩
    simp only [handedIn, hnone, List.append_nil]
    exact h
  · refine ⟨⟨b', before ++ worker' :: after⟩, m', worker.entries o b m, hstep, ?_⟩
    have hhanded : ∀ metric, handedIn metric id ⟨b, before ++ worker :: after⟩
        ⟨b', before ++ worker' :: after⟩ = handedBy metric worker worker' := by
      intro metric
      simp [handedIn, ← hid]
    simp only [hhanded]
    exact h.act hstop (htime worker (by simp [← hid])) hacts

theorem Honest.follow (h : Honest uids done o times base s m added handed)
    (hstop : Aggregator.ofWord? o.stop = none) (schedule : List Nat)
    (hdated : Dated (Memory.world uids done) o times schedule s m) :
    ∃ s' m' more, (follow (Memory.world uids done) o schedule s).run m = (s', m') ∧
      Honest uids done o times base s' m' (added ++ more) (fun metric => handed metric ++
        ((handedOut (Memory.world uids done) o metric schedule s).run m).1) := by
  induction schedule generalizing s m added handed with
  | nil =>
      refine ⟨s, m, [], rfl, ?_⟩
      have hnothing : ∀ metric, ((handedOut (Memory.world uids done) o metric [] s).run m).1 =
          ([] : List Row) := fun _ => rfl
      simp only [hnothing, List.append_nil]
      exact h
  | cons id schedule ih =>
      obtain ⟨htime, hlater⟩ := hdated
      obtain ⟨s₁, m₁, more, hstep, hnext⟩ := h.step hstop id htime
      rw [hstep] at hlater
      obtain ⟨s', m', later, hfollow, hlast⟩ := ih hnext hlater
      refine ⟨s', m', more ++ later, ?_, ?_⟩
      · unfold Purge.follow
        simp only [StateT.run_bind, hstep]
        exact hfollow
      · have hhanded : ∀ metric,
            ((handedOut (Memory.world uids done) o metric (id :: schedule) s).run m).1 =
              handedIn metric id s s₁ ++
                ((handedOut (Memory.world uids done) o metric schedule s₁).run m₁).1 := by
          intro metric
          simp only [handedOut, StateT.run_bind, hstep]
          rfl
        simp only [hhanded, ← List.append_assoc]
        exact hlast

theorem outset_honest (done : List String) (o : Options) (times : String → Quantity)
    (hnames : (uids.metrics.map Prod.fst).Nodup) (hsize : 0 ≤ m.pageSize) :
    Honest uids done o times m.records (outset uids done o) m [] fun _ => [] := by
  have hpending : (outset uids done o).pending = toDo uids done o := by
    simp [State.pending, outset, List.filterMap_replicate, Worker.metric?]
  constructor
  case records => exact (List.append_nil _).symm
  case pageSize => exact hsize
  case single =>
      rw [hpending]
      exact toDo_nodup done hnames
  case wanted =>
      intro metric hmetric
      rw [hpending] at hmetric
      simpa using (List.mem_filter.mp hmetric).2
  case queued =>
      intro metric _
      exact ⟨rfl, rfl⟩
  case working =>
      intro worker hworker metric hmetric
      rw [(List.mem_replicate.mp hworker).2] at hmetric
      cases hmetric
  case history =>
      intro metric
      exact .inl ⟨_, rfl⟩
  case skipped =>
      intro metric _
      rfl
  case finished =>
      intro r hr
      cases hr

end Run

/-- No record of a purge comes too early. At any moment, in whatever order the workers have taken
their steps and whatever was refused, a metric is begun once and ends once at most, metrics that were
done before have no record, and when a metric is recorded as done, no row is left that its query
covers, made at the present that it met, and the number of its rows is that of the rows which its
scan has handed out. -/
theorem follow_records (uids : UidTable) (hnames : (uids.metrics.map Prod.fst).Nodup)
    (done : List String) (o : Options) (hstop : Aggregator.ofWord? o.stop = none) (m : Memory)
    (hsize : 0 ≤ m.pageSize) (schedule : List Nat) :
    ∃ skipped s s' m' added,
      (prepare (Memory.world uids done) o).run.run m = (.ok (skipped, s), m) ∧
      (follow (Memory.world uids done) o schedule s).run m = (s', m') ∧
      m'.records = m.records ++ added ∧
      (∀ metric, statuses metric added <+: [.started, .done] ∨
        statuses metric added <+: [.started, .failed]) ∧
      (∀ metric ∈ done, statuses metric added = []) ∧
      ∀ r ∈ added, r.status = .done →
        r.rows = .whole
          ((handedOut (Memory.world uids done) o r.metric schedule s).run m).1.length ∧
        ∃ q, IsQueryOf uids o (presents uids done o schedule m r.metric) r.metric q ∧
          ∀ row ∈ m'.rows, q.covers row.key = false := by
  obtain ⟨s', m', added, hfollow, hhonest⟩ :=
    (outset_honest done o (presents uids done o schedule m) hnames hsize).follow hstop schedule
      (dated_presents done hnames schedule m)
  refine ⟨_, _, s', m', added, prepare_run uids done o m, hfollow, hhonest.records,
    hhonest.history, hhonest.skipped, ?_⟩
  intro r hr hdone
  obtain ⟨hcount, q, hq, hnone⟩ := hhonest.finished r hr hdone
  refine ⟨hcount, q, hq, ?_⟩
  intro row hrow
  cases hcovers : q.covers row.key with
  | false => rfl
  | true => exact absurd (hnone row hrow hcovers) List.not_mem_nil

/-- One metric with two rows in pages of one row, and a row that belongs to no metric. -/
def sampleUids : UidTable where
  metrics := [("load", [1])]
  tagKeys := []
  tagValues := []

def sampleMemory : Memory :=
  Memory.ofRows [⟨[1, 0, 12], [⟨[0, 0], [7]⟩]⟩, ⟨[2, 0, 9], []⟩, ⟨[1, 0, 9], []⟩] 1

def sampleOptions : Options where
  stop := "20"
  opening := ""
  layout := ⟨1, 1, 1, 2⟩
  workers := 2
  now := fun _ => .whole 50
  clock := fun _ => .whole 50

def sampleSchedule : List Nat :=
  [0, 1] ++ List.replicate 14 0

/-- The records and the keys that are left when the first worker has finished the metric. -/
def sampleOutcome : List (String × Status × Quantity) × List Bytes :=
  match (prepare (Memory.world sampleUids []) sampleOptions).run.run sampleMemory with
  | (.ok (_, s), m) =>
      let m' := ((follow (Memory.world sampleUids []) sampleOptions sampleSchedule s).run m).2
      (m'.records.map fun r => (r.metric, r.status, r.rows), m'.keys)
  | _ => ([], [])

theorem follow_records_sample :
    (sampleUids.metrics.map Prod.fst).Nodup ∧
      Aggregator.ofWord? sampleOptions.stop = none ∧ 0 ≤ sampleMemory.pageSize ∧
      ∃ skipped s s' m' added,
        (prepare (Memory.world sampleUids []) sampleOptions).run.run sampleMemory =
          (.ok (skipped, s), sampleMemory) ∧
        (follow (Memory.world sampleUids []) sampleOptions sampleSchedule s).run
          sampleMemory = (s', m') ∧
        m'.records = sampleMemory.records ++ added ∧
        (added.map fun r => (r.metric, r.status, r.rows)) =
          [("load", .started, .whole 0), ("load", .done, .whole 2)] ∧
        m'.keys = [[2, 0, 9]] ∧
        ∀ r ∈ added, r.status = .done →
          ∃ q, IsQueryOf sampleUids sampleOptions (.whole 50) r.metric q ∧
            ∀ row ∈ m'.rows, q.covers row.key = false := by
  have hnames : (sampleUids.metrics.map Prod.fst).Nodup := by decide
  have hstop : Aggregator.ofWord? sampleOptions.stop = none := by decide
  have hsize : 0 ≤ sampleMemory.pageSize := by decide
  obtain ⟨skipped, s, s', m', added, hprepare, hfollow, hrecords, -, -, hdone⟩ :=
    follow_records sampleUids hnames [] sampleOptions hstop sampleMemory hsize sampleSchedule
  have houtcome : sampleOutcome =
      ([("load", .started, .whole 0), ("load", .done, .whole 2)], [[2, 0, 9]]) := by
    decide +kernel
  have hadded : m'.records = added := hrecords
  rw [sampleOutcome, hprepare] at houtcome
  simp only [hfollow, hadded, Prod.mk.injEq] at houtcome
  refine ⟨hnames, hstop, hsize, skipped, s, s', m', added, hprepare, hfollow, hrecords,
    houtcome.1, houtcome.2, ?_⟩
  intro r hr hstatus
  obtain ⟨-, q, hq, hnone⟩ := hdone r hr hstatus
  obtain ⟨_, hpresent⟩ :=
    presents_eq_now sampleUids [] sampleOptions sampleSchedule sampleMemory r.metric
  rw [hpresent] at hq
  exact ⟨q, hq, hnone⟩

end RawSeries.Purge
