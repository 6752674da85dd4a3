import RawSeries.Proofs.PurgeAccounts

/-!
The course of a purge of a table in memory. At any moment, in whatever order the workers have taken
their steps, the rows that are gone, the records and the counts are those of the metrics one by one.
-/

namespace RawSeries

namespace Purge

/-- What the scan of a metric hands out was fixed when the scan was opened, and then only rows of
other metrics were gone. -/
def Opened (uids : UidTable) (o : Options) (times : String → Quantity) (queue : List String)
    (m₀ m : Memory) (metric : String) (offer : Except Fault (List Row)) : Prop :=
  ∃ q m₁ gone, plan uids o times metric = .ok [q] ∧ m₀.Loses m₁ gone ∧
    (∀ row ∈ m.rows, row ∈ m₁.rows) ∧
    (∀ row ∈ gone, ∃ other ∈ queue, other ≠ metric ∧
      reaches uids o times m₀.pageSize other row.key = true) ∧
    offer = m₁.handsOut q

/-- What holds at any moment of a purge of the metrics in a queue: of the state, of the memory, of
the records that were added and of the accounts of the metrics. -/
structure Course (uids : UidTable) (o : Options) (times : String → Quantity) (queue : List String)
    (m₀ : Memory) (s : State Memory.Cursor) (m : Memory) (added : List Record)
    (account : String → Account) : Prop where
  crew : s.workers.length = o.workers
  records : m.records = m₀.records ++ added
  loses : ∃ gone, m₀.Loses m gone ∧ gone.Perm (queue.flatMap fun metric => (account metric).handled)
  total : s.board.total = queue.length
  tally : s.board.tally = .of (queue.flatMap fun metric => (account metric).result.toList)
  single : s.pending.Nodup
  wanted : ∀ metric ∈ s.pending, metric ∈ queue
  queued : ∀ metric ∈ s.board.queue, remarks metric added = [] ∧ account metric = .blank
  working : ∀ worker ∈ s.workers, ∀ metric, worker.metric? = some metric →
    worker.Follows (plan uids o times) m₀.heldKeys (remarks metric added) (account metric)
  left : ∀ metric ∈ queue, metric ∉ s.pending →
    Left (plan uids o times metric) m₀.heldKeys m₀.heldRecords (remarks metric added)
      (account metric)
  others : ∀ metric, metric ∉ queue → remarks metric added = [] ∧ account metric = .blank
  opened : ∀ metric offer, (account metric).offer = some offer →
    Opened uids o times queue m₀ m metric offer
  stopped : .stopped ∈ s.workers → s.board.queue = []
  dead : ∀ f, .dead f ∈ s.workers → m₀.heldRecords ≠ []

theorem plan_plain {uids : UidTable} {o : Options} {times : String → Quantity}
    (hstop : Aggregator.ofWord? o.stop = none) {metric : String} {q : Query}
    (h : plan uids o times metric = .ok [q]) : q.filters = [] := by
  obtain ⟨_, hq, uid, stop, -, -, rfl⟩ := read_words uids hstop h
  cases hq
  rfl

theorem reaches_of_plan {uids : UidTable} {o : Options} {times : String → Quantity}
    {metric : String} {q : Query}
    (h : plan uids o times metric = .ok [q]) (size : Int) (key : Bytes) :
    reaches uids o times size metric key = q.reaches size key := by
  simp [reaches, h]

theorem flatMap_congr {α : Type} {names : List String} {f f' : String → List α}
    (h : ∀ name ∈ names, f name = f' name) : names.flatMap f = names.flatMap f' := by
  rw [List.flatMap_def, List.flatMap_def]
  exact congrArg _ (List.map_congr_left h)

theorem flatMap_extend {α : Type} {names : List String} (hnames : names.Nodup) {name : String}
    (hname : name ∈ names) {f f' : String → List α} {more : List α}
    (hself : f' name = f name ++ more) (hothers : ∀ other, other ≠ name → f' other = f other) :
    (names.flatMap f').Perm (names.flatMap f ++ more) := by
  induction names with
  | nil => cases hname
  | cons first rest ih =>
      obtain ⟨hfirst, hrest⟩ := List.nodup_cons.mp hnames
      rw [List.flatMap_cons, List.flatMap_cons]
      by_cases hsame : first = name
      · have hlater : rest.flatMap f' = rest.flatMap f := by
          apply flatMap_congr
          intro other hother
          apply hothers
          rintro rfl
          exact hfirst (hsame ▸ hother)
        rw [hsame, hself, hlater, List.append_assoc, List.append_assoc]
        exact List.perm_append_comm.append_left _
      · rw [hothers first hsame, List.append_assoc]
        have hlater : name ∈ rest := by
          rcases List.mem_cons.mp hname with rfl | hlater
          · exact absurd rfl hsame
          · exact hlater
        exact (ih hrest hlater).append_left _

section Course

variable {uids : UidTable} {o : Options} {times : String → Quantity} {queue : List String}
  {id : Nat} {m₀ m m' : Memory} {b b' : Board} {worker worker' : Worker Memory.Cursor}
  {before after : List (Worker Memory.Cursor)}
  {s : State Memory.Cursor} {added : List Record} {account : String → Account} {metric : String}

theorem Opened.scanned {offer : Except Fault (List Row)}
    (h : Opened uids o times queue m₀ m metric offer) (hstop : Aggregator.ofWord? o.stop = none) :
    ∃ q, plan uids o times metric = .ok [q] ∧ m₀.Scanned m.rows q offer := by
  obtain ⟨q, m₁, gone, hplan, hloses, hrows, -, rfl⟩ := h
  have hscanned := Memory.scanned_handsOut (plan_plain hstop hplan) m₁
  refine ⟨q, hplan, ?_⟩
  cases hhits : m₁.handsOut q with
  | error f =>
      rw [hhits] at hscanned
      intro hfree
      rw [← hloses.pageSize]
      apply hscanned
      rw [hloses.heldMetrics]
      exact hfree
  | ok hits =>
      rw [hhits] at hscanned
      obtain ⟨hsound, hwhole⟩ := hscanned
      rw [hloses.pageSize] at hsound hwhole
      exact ⟨hsound, fun row hrow => hwhole row (hrows row hrow)⟩

theorem Course.handled (h : Course uids o times queue m₀ s m added account) {row : Row}
    (hrow : row ∈ (account metric).handled) :
    ∃ hits, (account metric).offer = some (.ok hits) ∧ row ∈ hits := by
  have hblank : account metric ≠ .blank := by
    intro hblank
    rw [hblank] at hrow
    cases hrow
  have hsettled : ∀ r, (account metric).Settles (plan uids o times metric) m₀.heldKeys r →
      ∃ hits, (account metric).offer = some (.ok hits) ∧ row ∈ hits := by
    rintro r ⟨-, ⟨f, -, -, hnone, -⟩ | ⟨q, -, hends⟩⟩
    · rw [hnone] at hrow
      cases hrow
    · exact hends.handled hrow
  by_cases hqueue : metric ∈ queue
  · by_cases hpending : metric ∈ s.pending
    · rcases List.mem_append.mp hpending with hqueued | hworking
      · exact absurd (h.queued metric hqueued).2 hblank
      · obtain ⟨worker, hworker, hmetric⟩ := List.mem_filterMap.mp hworking
        have hfollows := h.working worker hworker metric hmetric
        cases worker with
        | announcing name | reading name begun => exact absurd hfollows.2 hblank
        | sweeping name begun sweep =>
            obtain ⟨-, -, q, -, hdrains⟩ := hfollows
            exact Sweep.Drains.handled hdrains hrow
        | confirming name rows spent | rejecting name f spent =>
            cases hmetric
            exact hsettled _ hfollows.2
        | _ => cases hmetric
    · cases h.left metric hqueue hpending with
      | closed _ hsettles => exact hsettled _ hsettles
      | unbegun _ hnone _ => exact absurd hnone hblank
      | unclosed _ hsettles _ => exact hsettled _ hsettles
  · exact absurd (h.others metric hqueue).2 hblank

theorem Course.reached (h : Course uids o times queue m₀ s m added account)
    (hstop : Aggregator.ofWord? o.stop = none) {row : Row} (hrow : row ∈ (account metric).handled) :
    reaches uids o times m₀.pageSize metric row.key = true := by
  obtain ⟨hits, hoffer, hmem⟩ := h.handled hrow
  obtain ⟨q, hplan, hsound, -⟩ := (h.opened metric _ hoffer).scanned hstop
  rw [reaches_of_plan hplan]
  exact hsound row hmem

def accountsAfter (account : String → Account) (m : Memory) (worker worker' : Worker Memory.Cursor)
    (metric : String) : Account :=
  if worker.metric? = some metric then (account metric).after m worker worker' else account metric

theorem remarks_other (h : worker.metric? ≠ some metric) :
    remarks metric (added ++ worker.entries o b m) = remarks metric added := by
  rw [remarks_append, remarks_entries_eq_nil h, List.append_nil]

theorem accountsAfter_other (h : worker.metric? ≠ some metric) :
    accountsAfter account m worker worker' metric = account metric :=
  if_neg h

theorem accountsAfter_self (h : worker.metric? = some metric) :
    accountsAfter account m worker worker' metric = (account metric).after m worker worker' :=
  if_pos h

theorem Course.extend {α : Type}
    (h : Course uids o times queue m₀ ⟨b, before ++ worker :: after⟩ m added account)
    (part : Account → List α) {more : List α} (hqueue : queue.Nodup)
    (hnone : worker.metric? = none → more = [])
    (hsome : ∀ metric, worker.metric? = some metric →
      part ((account metric).after m worker worker') = part (account metric) ++ more) :
    (queue.flatMap fun metric => part (accountsAfter account m worker worker' metric)).Perm
      ((queue.flatMap fun metric => part (account metric)) ++ more) := by
  cases hmetric : worker.metric? with
  | none =>
      rw [hnone hmetric, List.append_nil]
      have hsame : accountsAfter account m worker worker' = account := by
        funext metric
        exact if_neg (by rw [hmetric]; exact nofun)
      rw [hsame]
  | some metric =>
      have hmem := h.wanted metric (State.mem_pending (by simp) hmetric)
      refine flatMap_extend hqueue hmem ?_ ?_
      · rw [accountsAfter_self hmetric]
        exact hsome metric hmetric
      · intro other hother
        have hself : worker.metric? ≠ some other := by
          rw [hmetric]
          rintro hsame
          exact hother (Option.some.inj hsame).symm
        exact congrArg part (accountsAfter_other hself)

theorem Course.act_working
    (h : Course uids o times queue m₀ ⟨b, before ++ worker :: after⟩ m added account)
    (hstop : Aggregator.ofWord? o.stop = none) (htime : worker.OnTime o times b)
    (hacts : Acts uids.directory o id b m worker worker' b' m')
    {other : Worker Memory.Cursor} (hother : other ∈ before ++ worker' :: after)
    (hmetric : other.metric? = some metric) :
    other.Follows (plan uids o times) m₀.heldKeys (remarks metric (added ++ worker.entries o b m))
      (accountsAfter account m worker worker' metric) := by
  obtain ⟨gone, hloses, -⟩ := h.loses
  rcases mem_others_or_eq hother with hothers | rfl
  · have hself := pending_apart h.single (.inr ⟨other, hothers, hmetric⟩)
    rw [remarks_other hself, accountsAfter_other hself]
    exact h.working other (mem_of_mem_others hothers) metric hmetric
  · by_cases hself : worker.metric? = some metric
    · rw [remarks_append, accountsAfter_self hself, ← hloses.heldKeys]
      refine hacts.follows hstop htime ?_ hself hmetric
      rw [hloses.heldKeys]
      exact h.working worker (by simp) metric hself
    · obtain ⟨rfl, hqueued⟩ := hacts.takes hself hmetric
      rw [remarks_other hself, accountsAfter_other hself]
      exact h.queued metric hqueued

theorem Course.act_left
    (h : Course uids o times queue m₀ ⟨b, before ++ worker :: after⟩ m added account)
    (hacts : Acts uids.directory o id b m worker worker' b' m') (hmetric : metric ∈ queue)
    (hleft : metric ∉ State.pending ⟨b', before ++ worker' :: after⟩) :
    Left (plan uids o times metric) m₀.heldKeys m₀.heldRecords
      (remarks metric (added ++ worker.entries o b m))
      (accountsAfter account m worker worker' metric) := by
  obtain ⟨gone, hloses, -⟩ := h.loses
  have hnext : worker'.metric? ≠ some metric := by
    intro hnext
    exact hleft (State.mem_pending (by simp) hnext)
  by_cases hself : worker.metric? = some metric
  · rw [remarks_append, accountsAfter_self hself, ← hloses.heldKeys, ← hloses.heldRecords]
    refine hacts.leaves ?_ hself hnext
    rw [hloses.heldKeys]
    exact h.working worker (by simp) metric hself
  · rw [remarks_other hself, accountsAfter_other hself]
    apply h.left metric hmetric
    intro hpending
    apply hleft
    rcases List.mem_append.mp hpending with hqueued | hworking
    · rcases hacts.queue_kept hqueued with hqueued | htaken
      · exact List.mem_append_left _ hqueued
      · exact absurd htaken hnext
    · obtain ⟨other, hother, hsome⟩ := List.mem_filterMap.mp hworking
      rcases mem_others_or_eq hother with hothers | rfl
      · exact State.mem_pending (mem_of_mem_others hothers) hsome
      · exact absurd hsome hself

theorem Opened.mono {offer : Except Fault (List Row)}
    (h : Opened uids o times queue m₀ m metric offer) (hrows : ∀ row ∈ m'.rows, row ∈ m.rows) :
    Opened uids o times queue m₀ m' metric offer := by
  obtain ⟨q, m₁, gone, hplan, hloses, hkept, hothers, hoffer⟩ := h
  exact ⟨q, m₁, gone, hplan, hloses, fun row hrow => hkept row (hrows row hrow), hothers, hoffer⟩

/-- When the scan of a metric is opened, none of its own rows were deleted yet. -/
theorem Course.act_opened
    (h : Course uids o times queue m₀ ⟨b, before ++ worker :: after⟩ m added account)
    (hstop : Aggregator.ofWord? o.stop = none) {offer : Except Fault (List Row)}
    (hmetric : worker.metric? = some metric) (hopens : worker.opens m = some offer) :
    Opened uids o times queue m₀ m metric offer := by
  have hfollows := h.working worker (by simp) metric hmetric
  cases worker with
  | sweeping name begun sweep =>
      cases hmetric
      obtain ⟨-, -, q, hplan, hdrains⟩ := hfollows
      have hopens : sweep.phase.opens m = some offer := hopens
      unfold Sweep.Phase.opens at hopens
      split at hopens
      · rename_i first queries hphase
        rw [hphase] at hdrains
        obtain ⟨rfl, -, -, hnone, -⟩ := hdrains
        obtain ⟨gone, hloses, hperm⟩ := h.loses
        refine ⟨first, m, gone, hplan, hloses, fun row hrow => hrow, ?_,
          (Option.some.inj hopens).symm⟩
        intro row hrow
        obtain ⟨other, hother, hhandled⟩ := List.mem_flatMap.mp (hperm.mem_iff.mp hrow)
        refine ⟨other, hother, ?_, h.reached hstop hhandled⟩
        rintro rfl
        rw [hnone] at hhandled
        cases hhandled
      · cases hopens
  | _ => cases hopens

theorem Course.act_tally
    (h : Course uids o times queue m₀ ⟨b, before ++ worker :: after⟩ m added account)
    (hqueue : queue.Nodup) (hacts : Acts uids.directory o id b m worker worker' b' m') :
    b'.tally = .of (queue.flatMap fun metric =>
      (accountsAfter account m worker worker' metric).result.toList) := by
  have htally : b.tally = _ := h.tally
  rw [hacts.tally, htally, ← Tally.of_append]
  refine Tally.of_perm (List.perm_append_comm.trans (List.Perm.symm ?_))
  refine h.extend (fun a => a.result.toList) hqueue ?_ ?_
  · intro hfree
    rw [hacts.result_of_free hfree]
    rfl
  · intro metric hmetric
    have hfollows := h.working worker (by simp) metric hmetric
    simp only [Account.after]
    rcases hacts.result_fresh hfollows with hnone | hnone
    · rw [hnone]
      exact (List.append_nil _).symm
    · rw [hnone, Option.or_none]
      rfl

theorem Course.act_offer
    (h : Course uids o times queue m₀ ⟨b, before ++ worker :: after⟩ m added account)
    (hstop : Aggregator.ofWord? o.stop = none) (hrows : ∀ row ∈ m'.rows, row ∈ m.rows)
    {offer : Except Fault (List Row)}
    (hoffer : (accountsAfter account m worker worker' metric).offer = some offer) :
    Opened uids o times queue m₀ m' metric offer := by
  by_cases hself : worker.metric? = some metric
  · rw [accountsAfter_self hself, Account.after] at hoffer
    rcases Option.or_eq_some_iff.mp hoffer with hopens | ⟨-, hearlier⟩
    · exact (h.act_opened hstop hself hopens).mono hrows
    · exact (h.opened metric offer hearlier).mono hrows
  · rw [accountsAfter_other hself] at hoffer
    exact (h.opened metric offer hoffer).mono hrows

theorem Course.act_stopped
    (h : Course uids o times queue m₀ ⟨b, before ++ worker :: after⟩ m added account)
    (hacts : Acts uids.directory o id b m worker worker' b' m')
    (hstopped : .stopped ∈ before ++ worker' :: after) : b'.queue = [] := by
  have hkept : b.queue = [] → b'.queue = [] := by
    intro hempty
    apply List.eq_nil_iff_forall_not_mem.mpr
    intro metric hmetric
    exact List.eq_nil_iff_forall_not_mem.mp hempty metric (hacts.mem_queue hmetric)
  rcases mem_others_or_eq hstopped with hothers | hself
  · exact hkept (h.stopped (mem_of_mem_others hothers))
  · rcases hacts.stops hself.symm with hbefore | hempty
    · exact hkept (h.stopped (by simp [hbefore]))
    · exact hempty

/-- Every step of a worker keeps the course of the purge. -/
theorem Course.act (h : Course uids o times queue m₀ ⟨b, before ++ worker :: after⟩ m added account)
    (hqueue : queue.Nodup) (hstop : Aggregator.ofWord? o.stop = none)
    (htime : worker.OnTime o times b)
    (hacts : Acts uids.directory o id b m worker worker' b' m') :
    Course uids o times queue m₀ ⟨b', before ++ worker' :: after⟩ m' (added ++ worker.entries o b m)
      (accountsAfter account m worker worker') := by
  obtain ⟨hrecords, -, hrows⟩ := hacts.memory
  obtain ⟨gone, hloses, hgone⟩ := h.loses
  constructor
  case crew =>
      rw [← h.crew]
      simp
  case records => rw [hrecords, h.records, List.append_assoc]
  case loses =>
      refine ⟨_, hloses.trans hacts.loses, ?_⟩
      refine (hgone.append_right _).trans (List.Perm.symm ?_)
      refine h.extend Account.handled hqueue rids_of_free ?_
      intro metric _
      rfl
  case total => exact hacts.total.trans h.total
  case tally => exact h.act_tally hqueue hacts
  case single => exact (hacts.pending h.single).1
  case wanted =>
      intro metric hmetric
      exact h.wanted metric ((hacts.pending h.single).2 metric hmetric)
  case queued =>
      intro metric hmetric
      have hqueued := hacts.mem_queue hmetric
      have hself := pending_apart h.single (.inl hqueued)
      rw [remarks_other hself, accountsAfter_other hself]
      exact h.queued metric hqueued
  case working =>
      intro other hother metric hmetric
      exact h.act_working hstop htime hacts hother hmetric
  case left =>
      intro metric hmetric hleft
      exact h.act_left hacts hmetric hleft
  case others =>
      intro metric hmetric
      have hself : worker.metric? ≠ some metric := by
        intro hself
        exact hmetric (h.wanted metric (State.mem_pending (by simp) hself))
      rw [remarks_other hself, accountsAfter_other hself]
      exact h.others metric hmetric
  case opened =>
      intro metric offer hoffer
      exact h.act_offer hstop hrows hoffer
  case stopped => exact h.act_stopped hacts
  case dead =>
      intro f hdead
      rcases mem_others_or_eq hdead with hothers | hself
      · exact h.dead f (mem_of_mem_others hothers)
      · rcases hacts.dies hself.symm with hbefore | hrefused
        · exact h.dead f (by simp [hbefore])
        · rw [← hloses.heldRecords]
          exact hrefused

theorem Course.closed (h : Course uids o times queue m₀ s m added account) (hover : s.isOver = true)
    (hworkers : 0 < o.workers) (hrecords : m₀.heldRecords = []) (hmetric : metric ∈ queue) :
    ∃ r, remarks metric added = [begins, outcome r] ∧
      (account metric).Settles (plan uids o times metric) m₀.heldKeys r := by
  have hall : ∀ worker ∈ s.workers, worker = .stopped := by
    intro worker hworker
    have hisOver := List.all_eq_true.mp hover worker hworker
    cases worker with
    | stopped => rfl
    | dead f => exact absurd hrecords (h.dead f hworker)
    | _ => cases hisOver
  have hempty : s.board.queue = [] := by
    apply h.stopped
    have hcrew : 0 < s.workers.length := h.crew ▸ hworkers
    obtain ⟨worker, hworker⟩ := List.exists_mem_of_length_pos hcrew
    rw [← hall worker hworker]
    exact hworker
  have hleft : metric ∉ s.pending := by
    rw [State.pending, hempty, List.nil_append]
    intro hpending
    obtain ⟨worker, hworker, hsome⟩ := List.mem_filterMap.mp hpending
    rw [hall worker hworker] at hsome
    cases hsome
  cases h.left metric hmetric hleft with
  | closed hnoted hsettles => exact ⟨_, hnoted, hsettles⟩
  | unbegun _ _ hrefused | unclosed _ _ hrefused => exact absurd hrecords hrefused

end Course

section Run

variable {uids : UidTable} (done : List String) {o : Options} {times : String → Quantity}

theorem outset_course (hnames : (uids.metrics.map Prod.fst).Nodup) (m : Memory) :
    Course uids o times (toDo uids done o) m (outset uids done o) m [] fun _ => .blank := by
  have hpending : (outset uids done o).pending = toDo uids done o := by
    simp [State.pending, outset, List.filterMap_replicate, Worker.metric?]
  have hidle : ∀ worker ∈ (outset uids done o).workers, worker = .idle := by
    intro worker hworker
    exact (List.mem_replicate.mp hworker).2
  have hnone : ∀ {α : Type}, ((toDo uids done o).flatMap fun _ => ([] : List α)) = [] := by
    intro α
    simp
  constructor
  case crew => exact List.length_replicate
  case records => exact (List.append_nil _).symm
  case loses =>
      refine ⟨[], .refl m, ?_⟩
      rw [show (fun _ : String => Account.blank.handled) = fun _ => [] from rfl, hnone]
  case total => rfl
  case tally =>
      rw [show (fun _ : String => Account.blank.result.toList) = fun _ => [] from rfl, hnone]
      rfl
  case single =>
      rw [hpending]
      exact toDo_nodup done hnames
  case wanted =>
      intro metric hmetric
      rw [hpending] at hmetric
      exact hmetric
  case queued =>
      intro metric _
      exact ⟨rfl, rfl⟩
  case working =>
      intro worker hworker metric hmetric
      rw [hidle worker hworker] at hmetric
      cases hmetric
  case left =>
      intro metric hmetric hleft
      rw [hpending] at hleft
      exact absurd hmetric hleft
  case others =>
      intro metric _
      exact ⟨rfl, rfl⟩
  case opened =>
      intro metric offer hoffer
      cases hoffer
  case stopped =>
      intro hstopped
      cases hidle _ hstopped
  case dead =>
      intro f hdead
      cases hidle _ hdead

/-- In whatever order the workers take their steps, the purge keeps its course, with the presents at
which its queries are made. -/
theorem follow_course (hnames : (uids.metrics.map Prod.fst).Nodup)
    (hstop : Aggregator.ofWord? o.stop = none) (m : Memory) (schedule : List Nat) :
    ∃ s' m' added account,
      (follow (Memory.world uids done) o schedule (outset uids done o)).run m = (s', m') ∧
      Course uids o (presents uids done o schedule m) (toDo uids done o) m s' m' added account := by
  let Holds (s : State Memory.Cursor) (m' : Memory) : Prop := ∃ added account,
    Course uids o (presents uids done o schedule m) (toDo uids done o) m s m' added account
  have hstart : Holds (outset uids done o) m := ⟨[], _, outset_course done hnames m⟩
  obtain ⟨s', m', hfollow, added, account, hcourse⟩ := follow_preserves uids done o
    (motive := Holds)
    (by
      rintro id b before worker after m₁ worker' b' m' ⟨added, account, hcourse⟩ htime hacts
      exact ⟨_, _, hcourse.act (toDo_nodup done hnames) hstop htime hacts⟩)
    schedule (dated_presents done hnames schedule m) hstart
  exact ⟨s', m', added, account, hfollow, hcourse⟩

end Run

end Purge

end RawSeries
