import RawSeries.Proofs.PurgeProgress

namespace RawSeries

/-- The memory with nothing refused any more. -/
def Memory.unheld (m : Memory) : Memory :=
  { m with heldKeys := [], heldMetrics := [], heldRecords := [] }

namespace Purge

variable {uids : UidTable} {o o' : Options}

theorem reaches_of_alike (hfixed : o.Fixed) (halike : o.Alike o')
    (times times' : String → Quantity) (size : Int) (metric : String) (key : Bytes) :
    reaches uids o' times' size metric key = reaches uids o times size metric key := by
  rw [reaches, plan_of_alike hfixed halike times times', reaches]

theorem toDo_of_alike (halike : o.Alike o') (done : List String) :
    toDo uids done o' = toDo uids done o := by
  rw [toDo, halike.opening, toDo]

theorem toDo_nil : toDo uids [] o = uids.matching o.opening :=
  List.filter_eq_self.mpr fun _ _ => rfl

section Course

variable {times : String → Quantity} {queue done : List String} {m₀ m m' : Memory}
  {s : State Memory.Cursor}
  {added : List Record} {account : String → Account} {metric : String}

theorem Course.drained (h : Course uids o times queue m₀ s m added account)
    (hstop : Aggregator.ofWord? o.stop = none) (hmetric : metric ∈ queue) {hits : List Row}
    (hoffer : (account metric).offer = some (.ok hits)) (hhandled : (account metric).handled = hits)
    {row : Row} (hrow : row ∈ m.rows) : reaches uids o times m₀.pageSize metric row.key = false := by
  obtain ⟨gone, hloses, hgone⟩ := h.loses
  obtain ⟨q, hplan, -, hwhole⟩ := (h.opened metric _ hoffer).scanned hstop
  apply Bool.eq_false_iff.mpr
  intro hreaches
  rw [reaches_of_plan hplan] at hreaches
  have hmem : row ∈ gone := by
    apply hgone.mem_iff.mpr
    apply List.mem_flatMap.mpr
    exact ⟨metric, hmetric, hhandled ▸ hwhole row hrow hreaches⟩
  rw [hloses.rows] at hrow
  obtain ⟨-, hkept⟩ := List.mem_filter.mp hrow
  have hkey : (gone.map Row.key).contains row.key = true :=
    List.contains_iff_mem.mpr (List.mem_map_of_mem hmem)
  rw [hkey] at hkept
  cases hkept

theorem Course.drained_of_done (h : Course uids o times queue m₀ s m added account)
    (hstop : Aggregator.ofWord? o.stop = none)
    (hdone : (statuses metric added).getLast? = some .done) {row : Row} (hrow : row ∈ m.rows) :
    reaches uids o times m₀.pageSize metric row.key = false := by
  rw [statuses_eq_remarks] at hdone
  have hqueue : metric ∈ queue := by
    apply Decidable.byContradiction
    intro hnot
    rw [(h.others metric hnot).1] at hdone
    cases hdone
  have hpending : metric ∉ s.pending := by
    intro hpending
    rcases List.mem_append.mp hpending with hqueued | hworking
    · rw [(h.queued metric hqueued).1] at hdone
      cases hdone
    · obtain ⟨worker, hworker, hmetric⟩ := List.mem_filterMap.mp hworking
      have hfollows := h.working worker hworker metric hmetric
      cases worker with
      | announcing | reading | sweeping | confirming | rejecting =>
          rw [hfollows.1] at hdone
          cases hdone
      | _ => cases hmetric
  cases h.left metric hqueue hpending with
  | @closed r hnoted hsettles =>
      cases r with
      | error f =>
          rw [hnoted] at hdone
          cases hdone
      | ok touched =>
          rcases hsettles.fate with ⟨f, -, -, -, hfailed⟩ | ⟨q, hplan, hits, hoffer, hfate⟩
          · cases hfailed
          · cases hits with
            | error f => cases (Prod.mk.inj hfate).2
            | ok hits =>
                obtain ⟨hhandled, -⟩ := Memory.fate_ok hfate
                exact h.drained hstop hqueue hoffer hhandled hrow
  | unbegun hnoted _ _ | unclosed hnoted _ _ =>
      rw [hnoted] at hdone
      cases hdone

theorem Course.reached_of_gone (h : Course uids o times queue m₀ s m added account)
    (hstop : Aggregator.ofWord? o.stop = none) {row : Row} (hrow : row ∈ m₀.rows)
    (hgone : row ∉ m.rows) :
    ∃ metric ∈ queue, reaches uids o times m₀.pageSize metric row.key = true := by
  obtain ⟨gone, hloses, hperm⟩ := h.loses
  cases hkey : (gone.map Row.key).contains row.key with
  | false =>
      refine absurd ?_ hgone
      rw [hloses.rows]
      exact List.mem_filter.mpr ⟨hrow, by rw [hkey]; rfl⟩
  | true =>
      obtain ⟨other, hother, hsame⟩ := List.mem_map.mp (List.contains_iff_mem.mp hkey)
      obtain ⟨metric, hmetric, hhandled⟩ := List.mem_flatMap.mp (hperm.mem_iff.mp hother)
      exact ⟨metric, hmetric, hsame ▸ h.reached hstop hhandled⟩

theorem fate_free (hits : List Row) :
    Memory.fate [] (.ok hits) = (hits, .ok hits.length) :=
  Memory.fate_whole fun _ _ => rfl

theorem Completes.drained {schedule : List Nat} {summary : Summary}
    (h : Completes uids done o schedule m summary m')
    (hnames : (uids.metrics.map Prod.fst).Nodup) (hstop : Aggregator.ofWord? o.stop = none)
    (htimes : presents uids done o schedule m = times) (hworkers : 0 < o.workers)
    (hkeys : m.heldKeys = []) (hmetrics : m.heldMetrics = []) (hrecords : m.heldRecords = [])
    (hmetric : metric ∈ toDo uids done o) {row : Row} (hrow : row ∈ m'.rows) :
    reaches uids o times m.pageSize metric row.key = false := by
  obtain ⟨s', added, account, hcourse, hover, -⟩ := h.course done hnames hstop
  rw [htimes] at hcourse
  obtain ⟨r, -, -, hfate⟩ := hcourse.closed hover hworkers hrecords hmetric
  rcases hfate with ⟨f, hplan, -⟩ | ⟨q, hplan, hits, hoffer, hends⟩
  · rw [reaches, hplan]
  · cases hits with
    | error f =>
        obtain ⟨q', hplan', hscanned⟩ := (hcourse.opened metric _ hoffer).scanned hstop
        rw [reaches_of_plan hplan']
        exact hscanned (by rw [hmetrics]; rfl) row.key
    | ok hits =>
        rw [hkeys, fate_free] at hends
        exact hcourse.drained hstop hmetric hoffer (Prod.mk.inj hends).1.symm hrow

theorem eq_filter_of_mem {α : Type} {all kept : List α} {q : α → Bool}
    (h : ∃ p, kept = all.filter p) (hmem : ∀ a ∈ all, a ∈ kept ↔ q a = true) :
    kept = all.filter q := by
  obtain ⟨p, h⟩ := h
  rw [h]
  apply List.filter_congr
  intro a ha
  have hkept : a ∈ kept ↔ p a = true := by
    rw [h, List.mem_filter]
    exact and_iff_right ha
  exact Bool.eq_iff_iff.mpr (hkept.symm.trans (hmem a ha))

theorem Completes.rows {schedule : List Nat} {summary : Summary}
    (h : Completes uids done o schedule m.unheld summary m')
    (hnames : (uids.metrics.map Prod.fst).Nodup) (hstop : Aggregator.ofWord? o.stop = none)
    (htimes : presents uids done o schedule m.unheld = times) (hworkers : 0 < o.workers) :
    m'.rows = m.rows.filter fun row =>
      !(toDo uids done o).any fun metric => reaches uids o times m.pageSize metric row.key := by
  obtain ⟨s', added, account, hcourse, -⟩ := h.course done hnames hstop
  rw [htimes] at hcourse
  obtain ⟨gone, hloses, -⟩ := hcourse.loses
  refine eq_filter_of_mem ⟨_, hloses.rows⟩ ?_
  intro row hrow
  rw [Bool.not_eq_true', List.any_eq_false]
  constructor
  · intro hkept metric hmetric
    exact Bool.eq_false_iff.mp (h.drained hnames hstop htimes hworkers rfl rfl rfl hmetric hkept)
  · intro hnone
    apply Decidable.byContradiction
    intro hgone
    obtain ⟨metric, hmetric, hreaches⟩ := hcourse.reached_of_gone hstop hrow hgone
    exact hnone metric hmetric hreaches

/-- The rows that another purge would leave, of the metrics that this one has not recorded as done,
are those that no scan of any metric reaches. -/
theorem Course.spared_iff {done' : List String}
    (h : Course uids o times (toDo uids done o) m₀ s m added account)
    (hstop : Aggregator.ofWord? o.stop = none)
    (hdone : ∀ metric, metric ∈ done' ↔ (statuses metric added).getLast? = some .done) {row : Row}
    (hrow : row ∈ m₀.rows) :
    (row ∈ m.rows ∧
        ∀ metric ∈ toDo uids done' o, ¬reaches uids o times m₀.pageSize metric row.key = true) ↔
      ∀ metric ∈ uids.matching o.opening,
        ¬reaches uids o times m₀.pageSize metric row.key = true := by
  constructor
  · rintro ⟨hkept, hnone⟩ metric hmetric
    by_cases hmem : metric ∈ done'
    · exact Bool.eq_false_iff.mp (h.drained_of_done hstop ((hdone metric).mp hmem) hkept)
    · exact hnone metric (List.mem_filter.mpr ⟨hmetric, by simpa using hmem⟩)
  · intro hnone
    constructor
    · apply Decidable.byContradiction
      intro hgone
      obtain ⟨metric, hmetric, hreaches⟩ := h.reached_of_gone hstop hrow hgone
      exact hnone metric (List.mem_filter.mp hmetric).1 hreaches
    · intro metric hmetric
      exact hnone metric (List.mem_filter.mp hmetric).1

end Course

/-- Wherever a purge was cut short and whatever was refused in it, another purge in which nothing is
refused, of the metrics whose last record does not say that they are done, leaves the same rows as a
single purge of all metrics in which nothing is refused: those that no scan of a metric reaches. -/
theorem resumed_rows (uids : UidTable) (hnames : (uids.metrics.map Prod.fst).Nodup) (o : Options)
    (hfixed : o.Fixed) (m : Memory) (done : List String) (schedule : List Nat) :
    ∃ skipped s s₁ m₁ added,
      (prepare (Memory.world uids done) o).run.run m = (.ok (skipped, s), m) ∧
      (follow (Memory.world uids done) o schedule s).run m = (s₁, m₁) ∧
      m₁.records = m.records ++ added ∧
      ∀ done', (∀ metric, metric ∈ done' ↔ (statuses metric added).getLast? = some .done) →
      ∀ o₁ o₂, o.Alike o₁ → o.Alike o₂ → 0 < o₁.workers → 0 < o₂.workers →
        (∀ schedule₁, (∀ id < o₁.workers, Memory.enough uids m₁ ≤ schedule₁.count id) →
          ∃ summary m₂, Completes uids done' o₁ schedule₁ m₁.unheld summary m₂) ∧
        (∀ schedule₂, (∀ id < o₂.workers, Memory.enough uids m ≤ schedule₂.count id) →
          ∃ summary m₂, Completes uids [] o₂ schedule₂ m.unheld summary m₂) ∧
        ∀ schedule₁ summary₁ m₂ schedule₂ summary₂ m₃,
          Completes uids done' o₁ schedule₁ m₁.unheld summary₁ m₂ →
          Completes uids [] o₂ schedule₂ m.unheld summary₂ m₃ →
          m₂.rows = m₃.rows ∧ ∀ times, m₃.rows = m.rows.filter fun row =>
            !(uids.matching o.opening).any fun metric =>
              reaches uids o times m.pageSize metric row.key := by
  have hstop := hfixed.ofWord
  obtain ⟨s₁, m₁, added, account, hfollow, hcourse⟩ := follow_course done hnames hstop m schedule
  obtain ⟨gone, hloses, -⟩ := hcourse.loses
  refine ⟨_, _, s₁, m₁, added, prepare_run uids done o m, hfollow, hcourse.records, ?_⟩
  intro done' hdone o₁ o₂ halike₁ halike₂ hworkers₁ hworkers₂
  have hstop₁ := (hfixed.of_alike halike₁).ofWord
  have hstop₂ := (hfixed.of_alike halike₂).ofWord
  refine ⟨?_, ?_, ?_⟩
  · intro schedule₁ hfair
    exact completes_of_fair done' hstop₁ m₁.unheld hfair
  · intro schedule₂ hfair
    exact completes_of_fair [] hstop₂ m.unheld hfair
  intro schedule₁ summary₁ m₂ schedule₂ summary₂ m₃ hcompletes₁ hcompletes₂
  -- A fixed end is the same at any present, so both purges reach the same rows.
  have hsingle : ∀ times, m₃.rows = m.rows.filter fun row =>
      !(uids.matching o.opening).any fun metric =>
        reaches uids o times m.pageSize metric row.key := by
    intro times
    rw [hcompletes₂.rows hnames hstop₂ rfl hworkers₂]
    simp only [reaches_of_alike hfixed halike₂ times, toDo_of_alike halike₂, toDo_nil]
  refine ⟨?_, hsingle⟩
  rw [hsingle (presents uids done o schedule m), hcompletes₁.rows hnames hstop₁ rfl hworkers₁]
  simp only [reaches_of_alike hfixed halike₁ (presents uids done o schedule m),
    toDo_of_alike halike₁, hloses.pageSize]
  refine eq_filter_of_mem ⟨_, by rw [hloses.rows, Memory.without, List.filter_filter]⟩ ?_
  intro row hrow
  rw [List.mem_filter, Bool.not_eq_true', Bool.not_eq_true', List.any_eq_false, List.any_eq_false]
  exact hcourse.spared_iff hstop hdone hrow

/-- A memory in which a row is held, and the record of the failure too. -/
def brokenMemory : Memory :=
  { sampleMemory with heldKeys := [[1, 0, 12]], heldRecords := [("load", .failed)] }

/-- The records and the keys that are left when the first worker has died. -/
def brokenOutcome : List (String × Status) × List Bytes :=
  match (prepare (Memory.world sampleUids []) sampleOptions).run.run brokenMemory with
  | (.ok (_, s), m) =>
      let m' := ((follow (Memory.world sampleUids []) sampleOptions sampleSchedule s).run m).2
      (m'.records.map fun r => (r.metric, r.status), m'.keys)
  | _ => ([], [])

theorem resumed_rows_sample :
    (sampleUids.metrics.map Prod.fst).Nodup ∧ sampleOptions.Fixed ∧
      ∃ skipped s s₁ m₁ added,
        (prepare (Memory.world sampleUids []) sampleOptions).run.run brokenMemory =
          (.ok (skipped, s), brokenMemory) ∧
        (follow (Memory.world sampleUids []) sampleOptions sampleSchedule s).run brokenMemory =
          (s₁, m₁) ∧
        m₁.keys = [[1, 0, 12], [2, 0, 9]] ∧
        (∀ metric, metric ∈ [] ↔ (statuses metric added).getLast? = some .done) ∧
        ∃ schedule₁ summary₁ m₂ schedule₂ summary₂ m₃,
          Completes sampleUids [] sampleOptions schedule₁ m₁.unheld summary₁ m₂ ∧
          Completes sampleUids [] sampleOptions schedule₂ brokenMemory.unheld summary₂ m₃ ∧
          m₂.rows = m₃.rows ∧ m₃.keys = [[2, 0, 9]] := by
  have hnames : (sampleUids.metrics.map Prod.fst).Nodup := by decide
  have hfixed : sampleOptions.Fixed := ⟨20, fun _ => rfl⟩
  have halike : sampleOptions.Alike sampleOptions := ⟨rfl, rfl, rfl⟩
  have hworkers : 0 < sampleOptions.workers := by decide
  obtain ⟨skipped, s, s₁, m₁, added, hprepare, hfollow, hrecords, hall⟩ :=
    resumed_rows sampleUids hnames sampleOptions hfixed brokenMemory [] sampleSchedule
  have houtcome : brokenOutcome = ([("load", .started)], [[1, 0, 12], [2, 0, 9]]) := by
    decide +kernel
  have hadded : m₁.records = added := hrecords
  rw [brokenOutcome, hprepare] at houtcome
  simp only [hfollow, hadded, Prod.mk.injEq] at houtcome
  obtain ⟨hstatuses, hkeys⟩ := houtcome
  have hdone : ∀ metric, metric ∈ [] ↔ (statuses metric added).getLast? = some .done := by
    intro metric
    obtain ⟨r, later, rfl, hfirst, hlater⟩ := List.map_eq_cons_iff.mp hstatuses
    obtain rfl := List.map_eq_nil_iff.mp hlater
    by_cases hmetric : r.metric = metric
    · simp [statuses, hmetric, (Prod.mk.inj hfirst).2]
    · simp [statuses, hmetric]
  obtain ⟨-, -, hsame⟩ := hall [] hdone sampleOptions sampleOptions halike halike hworkers hworkers
  obtain ⟨schedule₁, summary₁, _, m₂, hcompletes₁, -⟩ :=
    purge_completes [] sampleUids hfixed.ofWord m₁.unheld
  obtain ⟨schedule₂, summary₂, _, m₃, hcompletes₂, -⟩ :=
    purge_completes [] sampleUids hfixed.ofWord brokenMemory.unheld
  obtain ⟨hrows, hleft⟩ := hsame _ _ _ _ _ _ hcompletes₁ hcompletes₂
  refine ⟨hnames, hfixed, skipped, s, s₁, m₁, added, hprepare, hfollow, hkeys, hdone, schedule₁,
    summary₁, m₂, schedule₂, summary₂, m₃, hcompletes₁, hcompletes₂, hrows, ?_⟩
  rw [Memory.keys, hleft fun _ => .whole 0]
  decide +kernel

end Purge

end RawSeries
