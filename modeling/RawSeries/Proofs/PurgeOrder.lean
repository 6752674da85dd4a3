import RawSeries.Proofs.PurgeProgress

namespace RawSeries

namespace Purge

/-- Handles a metric alone: its query is made at the present that is given for it, and its rows are
swept to the end. -/
def alone (uids : UidTable) (o : Options) (times : String → Quantity) (metric : String) :
    StateM Memory (Option (Except Fault Nat)) := do
  match plan uids o times metric with
  | .error f => return some (.error f)
  | .ok queries =>
      let sweep ← Memory.sweep uids.directory (sweepOptions o metric o.clock) queries
      return sweep.result?

def oneByOne (uids : UidTable) (o : Options) (times : String → Quantity) :
    List String → StateM Memory (List (String × Option (Except Fault Nat)))
  | [] => return []
  | metric :: metrics => do
      let result ← alone uids o times metric
      let results ← oneByOne uids o times metrics
      return (metric, result) :: results

/-- The rows that are deleted of a metric, and the result, when all its rows are still there. -/
def settled (uids : UidTable) (o : Options) (times : String → Quantity) (m : Memory)
    (metric : String) : List Row × Except Fault Nat :=
  match plan uids o times metric with
  | .error f => ([], .error f)
  | .ok [q] => Memory.fate m.heldKeys (m.handsOut q)
  | .ok _ => ([], .ok 0)

/-- The summary of a purge that has skipped some metrics and come to results with the others. -/
def Summary.of (skipped : Nat) (results : List (Except Fault Nat)) : Summary :=
  ⟨skipped + results.length, (Tally.of results).finished, (Tally.of results).failed, skipped,
    (Tally.of results).touched⟩

/-- No row key is covered by the queries of two metrics. -/
def Apart (uids : UidTable) (o : Options) (times : String → Quantity) (metrics : List String) :
    Prop :=
  ∀ one ∈ metrics, ∀ other ∈ metrics, ∀ size key, reaches uids o times size one key = true →
    reaches uids o times size other key = true → one = other

variable {uids : UidTable} {o : Options} {times : String → Quantity} {m m' : Memory}
  {metric : String} {gone : List Row}

theorem settled_of_plan {q : Query} (hplan : plan uids o times metric = .ok [q]) :
    settled uids o times m metric = Memory.fate m.heldKeys (m.handsOut q) := by
  rw [settled, hplan]

theorem settled_of_loses (hstop : Aggregator.ofWord? o.stop = none) (h : m.Loses m' gone)
    (hothers : ∀ row ∈ gone, reaches uids o times m.pageSize metric row.key = false) :
    settled uids o times m' metric = settled uids o times m metric := by
  cases hplan : plan uids o times metric with
  | error f => simp only [settled, hplan]
  | ok queries =>
      obtain ⟨q, rfl, -⟩ := read_words uids hstop hplan
      rw [settled_of_plan hplan, settled_of_plan hplan, h.heldKeys,
        Memory.handsOut_of_loses (plan_plain hstop hplan) h]
      intro row hrow
      rw [← reaches_of_plan hplan]
      exact hothers row hrow

theorem reaches_of_settled (hstop : Aggregator.ofWord? o.stop = none) {row : Row}
    (h : row ∈ (settled uids o times m metric).1) :
    reaches uids o times m.pageSize metric row.key = true := by
  cases hplan : plan uids o times metric with
  | error f =>
      rw [settled, hplan] at h
      cases h
  | ok queries =>
      obtain ⟨q, rfl, -⟩ := read_words uids hstop hplan
      rw [settled_of_plan hplan] at h
      have hscanned := Memory.scanned_handsOut (plan_plain hstop hplan) m
      rw [reaches_of_plan hplan]
      cases hhits : m.handsOut q with
      | error f =>
          rw [hhits] at h
          cases h
      | ok hits =>
          rw [hhits] at h hscanned
          exact hscanned.1 row ((List.takeWhile_prefix _).subset h)

theorem metricOf_of_reaches {q : Query} {size : Int} {key : Bytes}
    (h : q.reaches size key = true) : Key.metricOf q.layout key = q.uid := by
  have hcovers : q.covers key = true := (Bool.and_eq_true_iff.mp h).2
  unfold Query.covers at hcovers
  split at hcovers
  · have haccepts : q.accepts key = true := (Bool.and_eq_true_iff.mp hcovers).2
    exact eq_of_beq (Bool.and_eq_true_iff.mp haccepts).1
  · cases hcovers

theorem id?_of_reaches (hstop : Aggregator.ofWord? o.stop = none) {size : Int} {key : Bytes}
    (h : reaches uids o times size metric key = true) :
    uids.id? .metric metric = some (Key.metricOf o.layout key) := by
  cases hplan : plan uids o times metric with
  | error f =>
      rw [reaches, hplan] at h
      cases h
  | ok queries =>
      obtain ⟨q, rfl, uid, stop, huid, -, rfl⟩ := read_words uids hstop hplan
      rw [reaches_of_plan hplan] at h
      rw [huid]
      exact congrArg some (metricOf_of_reaches h).symm

theorem apart_of_uids (hstop : Aggregator.ofWord? o.stop = none) {metrics : List String}
    (huids : ∀ one ∈ metrics, ∀ other ∈ metrics,
      uids.id? .metric one = uids.id? .metric other → one = other) :
    Apart uids o times metrics := by
  intro one hone other hother size key hreaches hreaches'
  exact huids one hone other hother
    ((id?_of_reaches hstop hreaches).trans (id?_of_reaches hstop hreaches').symm)

theorem alone_run (hstop : Aggregator.ofWord? o.stop = none) (m : Memory) (metric : String) :
    ∃ m', (alone uids o times metric).run m = (some (settled uids o times m metric).2, m') ∧
      m.Loses m' (settled uids o times m metric).1 := by
  unfold alone
  cases hplan : plan uids o times metric with
  | error f =>
      refine ⟨m, ?_, ?_⟩
      · simp only [settled, hplan]
        rfl
      · simp only [settled, hplan]
        exact .refl m
  | ok queries =>
      obtain ⟨q, rfl, -⟩ := read_words uids hstop hplan
      obtain ⟨s, m', hrun, hresult, hloses⟩ := Memory.sweep_loses uids
        (o := sweepOptions o metric o.clock) rfl rfl (plan_plain hstop hplan) m
      rw [settled_of_plan hplan]
      refine ⟨m', ?_, hloses⟩
      simp only [StateT.run_bind, hrun, ← hresult]
      rfl

theorem oneByOne_cons_run (metric : String) (metrics : List String) (m : Memory) :
    (oneByOne uids o times (metric :: metrics)).run m =
      ((metric, ((alone uids o times metric).run m).1) ::
          ((oneByOne uids o times metrics).run ((alone uids o times metric).run m).2).1,
        ((oneByOne uids o times metrics).run ((alone uids o times metric).run m).2).2) := rfl

/-- Metrics that are handled one after the other come to what each of them is settled with. -/
theorem oneByOne_run (hstop : Aggregator.ofWord? o.stop = none) {m₀ : Memory}
    {metrics : List String} (hmetrics : metrics.Nodup) (hapart : Apart uids o times metrics)
    (hloses : m₀.Loses m gone)
    (hothers : ∀ metric ∈ metrics, ∀ row ∈ gone,
      reaches uids o times m₀.pageSize metric row.key = false) :
    ∃ m', (oneByOne uids o times metrics).run m =
        (metrics.map fun metric => (metric, some (settled uids o times m₀ metric).2), m') ∧
      m₀.Loses m' (gone ++ metrics.flatMap fun metric => (settled uids o times m₀ metric).1) := by
  induction metrics generalizing m gone with
  | nil =>
      refine ⟨m, rfl, ?_⟩
      rw [List.flatMap_nil, List.append_nil]
      exact hloses
  | cons metric metrics ih =>
      obtain ⟨hmetric, hlater⟩ := List.nodup_cons.mp hmetrics
      obtain ⟨m₁, hrun, hgone⟩ := alone_run hstop m metric
      rw [settled_of_loses hstop hloses (hothers metric List.mem_cons_self)] at hrun hgone
      have hothers' : ∀ other ∈ metrics, ∀ row ∈ gone ++ (settled uids o times m₀ metric).1,
          reaches uids o times m₀.pageSize other row.key = false := by
        intro other hother row hrow
        rcases List.mem_append.mp hrow with hrow | hrow
        · exact hothers other (List.mem_cons_of_mem _ hother) row hrow
        · apply Bool.eq_false_iff.mpr
          intro hreaches
          have hsame := hapart metric List.mem_cons_self other (List.mem_cons_of_mem _ hother) _ _
            (reaches_of_settled hstop hrow) hreaches
          exact hmetric (hsame ▸ hother)
      have hapart' : Apart uids o times metrics := fun one hone other hother =>
        hapart one (List.mem_cons_of_mem _ hone) other (List.mem_cons_of_mem _ hother)
      obtain ⟨m', hruns, hall⟩ := ih hlater hapart' (hloses.trans hgone) hothers'
      refine ⟨m', ?_, ?_⟩
      · rw [oneByOne_cons_run, hrun, hruns]
        rfl
      · rw [List.flatMap_cons, ← List.append_assoc]
        exact hall

/-- When a purge is over in which no record was refused, every metric has come to what it is settled
with, whatever the workers have done to the others meanwhile. -/
theorem Course.settled {queue : List String} {m₀ : Memory} {s : State Memory.Cursor}
    {added : List Record} {account : String → Account}
    (h : Course uids o times queue m₀ s m added account) (hstop : Aggregator.ofWord? o.stop = none)
    (hapart : Apart uids o times queue) (hover : s.isOver = true) (hworkers : 0 < o.workers)
    (hrecords : m₀.heldRecords = []) (hmetric : metric ∈ queue) :
    remarks metric added = [begins, outcome (Purge.settled uids o times m₀ metric).2] ∧
      account metric = ⟨(account metric).offer, (Purge.settled uids o times m₀ metric).1,
        some (Purge.settled uids o times m₀ metric).2⟩ := by
  obtain ⟨r, hnoted, hresult, hfate⟩ := h.closed hover hworkers hrecords hmetric
  suffices hsettled : Purge.settled uids o times m₀ metric = ((account metric).handled, r) by
    rw [hsettled, hnoted, ← hresult]
    exact ⟨rfl, rfl⟩
  rcases hfate with ⟨f, hplan, -, hnone, rfl⟩ | ⟨q, hplan, hits, hoffer, hends⟩
  · rw [Purge.settled, hplan, hnone]
  · rw [settled_of_plan hplan, ← hends]
    obtain ⟨q', m₁, gone, hplan', hloses, -, hothers, rfl⟩ := h.opened metric hits hoffer
    obtain rfl : q = q' := by
      rw [hplan] at hplan'
      cases hplan'
      rfl
    refine congrArg _ (Memory.handsOut_of_loses (plan_plain hstop hplan) hloses ?_).symm
    intro row hrow
    obtain ⟨other, hother, hne, hreaches⟩ := hothers row hrow
    rw [← reaches_of_plan hplan]
    apply Bool.eq_false_iff.mpr
    intro hself
    exact hne (hapart other hother metric hmetric _ _ hreaches hself)

theorem skipped_count (uids : UidTable) (done : List String) (o : Options) :
    (uids.matching o.opening).length - (toDo uids done o).length =
      (uids.matching o.opening).countP done.contains := by
  have hcount := List.length_eq_countP_add_countP done.contains (l := uids.matching o.opening)
  have hrest : (toDo uids done o).length =
      (uids.matching o.opening).countP fun metric => ¬done.contains metric = true := by
    rw [List.countP_eq_length_filter, toDo]
    congr 1
    apply List.filter_congr
    intro metric _
    simp
  omega

theorem Completes.settled {done : List String} {schedule : List Nat} {summary : Summary}
    (h : Completes uids done o schedule m summary m')
    (hnames : (uids.metrics.map Prod.fst).Nodup) (hstop : Aggregator.ofWord? o.stop = none)
    (htimes : presents uids done o schedule m = times)
    (hapart : Apart uids o times (toDo uids done o)) (hworkers : 0 < o.workers)
    (hrecords : m.heldRecords = []) :
    (∃ gone, m.Loses m' gone ∧
      gone.Perm ((toDo uids done o).flatMap fun metric =>
        (Purge.settled uids o times m metric).1)) ∧
    summary = .of ((uids.matching o.opening).countP done.contains)
      ((toDo uids done o).map fun metric => (Purge.settled uids o times m metric).2) ∧
    ∃ added, m'.records = m.records ++ added ∧
      (∀ metric ∈ toDo uids done o,
        remarks metric added = [begins, outcome (Purge.settled uids o times m metric).2]) ∧
      ∀ metric, metric ∉ toDo uids done o → remarks metric added = [] := by
  obtain ⟨s', added, account, hcourse, hover, rfl⟩ := h.course done hnames hstop
  rw [htimes] at hcourse
  have hsettled : ∀ metric ∈ toDo uids done o, _ := fun metric hmetric =>
    hcourse.settled hstop hapart hover hworkers hrecords hmetric
  obtain ⟨gone, hloses, hgone⟩ := hcourse.loses
  refine ⟨⟨gone, hloses, ?_⟩, ?_, added, hcourse.records, ?_, ?_⟩
  · have hhandled : ((toDo uids done o).flatMap fun metric => (account metric).handled) =
        (toDo uids done o).flatMap fun metric => (Purge.settled uids o times m metric).1 := by
      apply flatMap_congr
      intro metric hmetric
      rw [(hsettled metric hmetric).2]
    rw [← hhandled]
    exact hgone
  · have hresults : ((toDo uids done o).flatMap fun metric => (account metric).result.toList) =
        (toDo uids done o).map fun metric => (Purge.settled uids o times m metric).2 := by
      rw [List.map_eq_flatMap]
      apply flatMap_congr
      intro metric hmetric
      rw [(hsettled metric hmetric).2]
      rfl
    have htally : s'.board.tally = _ := hcourse.tally
    rw [hresults] at htally
    rw [Summary.of, ← htally, List.length_map, ← skipped_count, ← hcourse.total]
    rfl
  · intro metric hmetric
    exact (hsettled metric hmetric).1
  · intro metric hmetric
    exact (hcourse.others metric hmetric).1

theorem oneByOne_of_fixed (hfixed : o.Fixed) (times times' : String → Quantity) :
    oneByOne uids o times = oneByOne uids o times' := by
  have halone : alone uids o times = alone uids o times' := by
    funext metric
    rw [alone, alone, plan_of_alike hfixed ⟨rfl, rfl, rfl⟩ times times']
  funext metrics
  induction metrics with
  | nil => rfl
  | cons metric metrics ih => rw [oneByOne, oneByOne, halone, ih]

/-- However many workers there are and in whatever order they take their steps, a purge in which no
record is refused comes to its end, and then it has done what is done when the metrics are handled
one after the other, each of them with the end that was read when its query was made. Whatever
deletions and scans are refused, the rows that are left, the keys that were deleted, the summary,
and the status, the rows and the error that are recorded of each metric are the same. For an end
that denotes the same instant at any time, what is done one after the other does not depend on when
the queries are made, so that it is the same for all purges. -/
theorem completes_oneByOne (uids : UidTable) (hnames : (uids.metrics.map Prod.fst).Nodup)
    (done : List String) (o : Options) (hstop : Aggregator.ofWord? o.stop = none)
    (huids : ∀ one ∈ uids.matching o.opening, ∀ other ∈ uids.matching o.opening,
      uids.id? .metric one = uids.id? .metric other → one = other)
    (m : Memory) (hrecords : m.heldRecords = []) :
    (∀ workers now clock, 0 < workers →
      (∀ schedule, (∀ id < workers, Memory.enough uids m ≤ schedule.count id) →
        ∃ summary m', Completes uids done { o with workers, now, clock } schedule m summary m') ∧
      (∃ schedule summary notices m',
        Completes uids done { o with workers, now, clock } schedule m summary m' ∧
        (Memory.purge uids done { o with workers, now, clock }).run.run m =
          (.ok (summary, notices), m')) ∧
      ∀ schedule summary m',
        Completes uids done { o with workers, now, clock } schedule m summary m' →
        ∃ (results : List (String × Except Fault Nat)) (m₁ : Memory),
          (oneByOne uids o (presents uids done { o with workers, now, clock } schedule m)
              (toDo uids done o)).run m =
            (results.map fun (metric, result) => (metric, some result), m₁) ∧
          m'.rows = m₁.rows ∧ m'.deleted.Perm m₁.deleted ∧
          summary = .of ((uids.matching o.opening).countP done.contains)
            (results.map Prod.snd) ∧
          summary.metrics = summary.skipped + summary.finished + summary.failed ∧
          ∃ added, m'.records = m.records ++ added ∧
            (∀ metric result, (metric, result) ∈ results →
              remarks metric added = [begins, outcome result]) ∧
            ∀ metric, metric ∉ results.map Prod.fst → remarks metric added = []) ∧
    (o.Fixed → ∃ results m₁, ∀ times,
      (oneByOne uids o times (toDo uids done o)).run m = (results, m₁)) := by
  constructor
  case right =>
      intro hfixed
      let handled := (oneByOne uids o (fun _ => .whole 0) (toDo uids done o)).run m
      refine ⟨handled.1, handled.2, ?_⟩
      intro times
      rw [oneByOne_of_fixed hfixed times fun _ => .whole 0]
      rfl
  intro workers now clock hworkers
  refine ⟨?_, purge_completes (o := { o with workers, now, clock }) done uids hstop m, ?_⟩
  · intro schedule hfair
    exact completes_of_fair (o := { o with workers, now, clock }) done hstop m hfair
  intro schedule summary m' hcompletes
  -- From here on, only the presents at which the queries were made matter of the schedule.
  generalize htimes : presents uids done { o with workers, now, clock } schedule m = times
  have hapart : Apart uids o times (toDo uids done o) :=
    apart_of_uids hstop fun one hone other hother =>
      huids one (List.mem_filter.mp hone).1 other (List.mem_filter.mp hother).1
  obtain ⟨m₁, hrun, hloses⟩ := oneByOne_run hstop (toDo_nodup done hnames) hapart (.refl m)
    (fun _ _ => nofun)
  obtain ⟨⟨gone, hgone, hperm⟩, hsummary, added, hadded, hnoted, hothers⟩ :=
    hcompletes.settled hnames hstop htimes hapart hworkers hrecords
  refine ⟨(toDo uids done o).map fun metric => (metric, (settled uids o times m metric).2), m₁, ?_,
    ?_, ?_, ?_, ?_, added, hadded, ?_, ?_⟩
  · rw [hrun, List.map_map]
    rfl
  · rw [hgone.rows, hloses.rows]
    exact Memory.without_perm hperm m.rows
  · rw [hgone.deleted, hloses.deleted]
    exact (hperm.map Row.key).append_left _
  · rw [hsummary, List.map_map]
    rfl
  · rw [hsummary, Summary.of, Nat.add_assoc, Tally.of_total]
  · intro metric result hresult
    obtain ⟨name, hname, hpair⟩ := List.mem_map.mp hresult
    cases hpair
    exact hnoted metric hname
  · intro metric hmetric
    apply hothers
    intro htodo
    apply hmetric
    rw [List.map_map]
    exact List.mem_map.mpr ⟨metric, htodo, rfl⟩

/-- Two metrics to do, of which one has a row that is held, and one that was done before. -/
def pairUids : UidTable where
  metrics := [("disk", [2]), ("idle", [3]), ("load", [1])]
  tagKeys := []
  tagValues := []

def pairMemory : Memory :=
  { Memory.ofRows [⟨[1, 0, 9], []⟩, ⟨[1, 0, 12], []⟩, ⟨[2, 0, 9], []⟩, ⟨[2, 0, 12], []⟩,
      ⟨[3, 0, 9], []⟩] 1 with heldKeys := [[1, 0, 12]] }

def pairOutcome : List (String × Option Remark) × List Bytes :=
  let (results, m) :=
    (oneByOne pairUids sampleOptions (fun _ => .whole 50) ["disk", "load"]).run pairMemory
  (results.map fun (metric, result) => (metric, result.map outcome), m.keys)

theorem pairUids_matching : pairUids.matching "" = ["disk", "idle", "load"] :=
  List.mergeSort_of_pairwise (by decide)

theorem completes_oneByOne_pair :
    (pairUids.metrics.map Prod.fst).Nodup ∧ Aggregator.ofWord? sampleOptions.stop = none ∧
      (∀ one ∈ pairUids.matching "", ∀ other ∈ pairUids.matching "",
        pairUids.id? .metric one = pairUids.id? .metric other → one = other) ∧
      pairMemory.heldRecords = [] ∧ sampleOptions.Fixed ∧
      ∃ schedule summary m',
        Completes pairUids ["idle"] sampleOptions schedule pairMemory summary m' ∧
        m'.keys = [[1, 0, 12], [3, 0, 9]] ∧
        summary.metrics = summary.skipped + summary.finished + summary.failed ∧
        ∃ added, m'.records = pairMemory.records ++ added ∧
          remarks "disk" added = [begins, (.done, .whole 2, none)] ∧
          remarks "idle" added = [] := by
  have hnames : (pairUids.metrics.map Prod.fst).Nodup := by decide
  have hstop : Aggregator.ofWord? sampleOptions.stop = none := by decide
  have huids : ∀ one ∈ pairUids.matching "", ∀ other ∈ pairUids.matching "",
      pairUids.id? .metric one = pairUids.id? .metric other → one = other := by
    rw [pairUids_matching]
    decide
  have hfixed : sampleOptions.Fixed := ⟨20, fun _ => rfl⟩
  have htodo : toDo pairUids ["idle"] sampleOptions = ["disk", "load"] := by
    rw [toDo, show sampleOptions.opening = "" from rfl, pairUids_matching]
    decide
  have houtcome : pairOutcome = ([("disk", some (.done, .whole 2, none)),
      ("load", some (.failed, .whole 0, some (Fault.line (.store (.deleteRefused [1, 0, 12])))))],
      [[1, 0, 12], [3, 0, 9]]) := by
    decide +kernel
  obtain ⟨hall, hsteady⟩ :=
    completes_oneByOne pairUids hnames ["idle"] sampleOptions hstop huids pairMemory rfl
  obtain ⟨-, ⟨schedule, summary, notices, m', hcompletes, -⟩, hsame⟩ :=
    hall sampleOptions.workers sampleOptions.now sampleOptions.clock (by decide)
  obtain ⟨results, m₁, hrun, hrows, -, -, hsummary, added, hadded, hnoted, hothers⟩ :=
    hsame schedule summary m' hcompletes
  -- The end is fixed, so it does not matter at which presents it was read.
  obtain ⟨_, _, hruns⟩ := hsteady hfixed
  have hrun := (hruns fun _ => .whole 50).trans ((hruns _).symm.trans hrun)
  rw [pairOutcome, ← htodo, hrun] at houtcome
  obtain ⟨hresults, hkeys⟩ := Prod.mk.inj houtcome
  rw [List.map_map] at hresults
  obtain ⟨⟨name, result⟩, later, rfl, hfirst, hlater⟩ := List.map_eq_cons_iff.mp hresults
  obtain ⟨⟨name', result'⟩, last, rfl, hsecond, hlast⟩ := List.map_eq_cons_iff.mp hlater
  obtain rfl := List.map_eq_nil_iff.mp hlast
  simp only [Function.comp_apply, Option.map_some, Prod.mk.injEq] at hfirst hsecond
  obtain ⟨rfl, hdone⟩ := hfirst
  obtain ⟨rfl, -⟩ := hsecond
  refine ⟨hnames, hstop, huids, rfl, hfixed, schedule, summary, m', hcompletes, ?_, hsummary,
    added, hadded, ?_, hothers "idle" (by simp)⟩
  · rw [Memory.keys, hrows]
    exact hkeys
  · rw [← Option.some.inj hdone]
    exact hnoted "disk" result List.mem_cons_self

/-- Two metrics, of which one has a row that is past for late presents only. -/
def racedUids : UidTable where
  metrics := [("disk", [2]), ("load", [1])]
  tagKeys := []
  tagValues := []

def racedMemory : Memory :=
  Memory.ofRows [⟨[1, 0, 9], []⟩, ⟨[1, 78, 32], []⟩, ⟨[2, 0, 9], []⟩] 1

/-- The end of the purge is the present, which is a later one from the fifth reading on. -/
def racedOptions : Options :=
  { sampleOptions with stop := "now", now := fun n => if n < 4 then .whole 10 else .whole 30000 }

/-- The first worker does both metrics. -/
def loneSchedule : List Nat :=
  List.replicate 30 0 ++ [1]

/-- Each worker does a metric, and both make their queries at first. -/
def sharedSchedule : List Nat :=
  [0, 1, 0, 1, 0, 1] ++ List.replicate 12 0 ++ List.replicate 12 1

/-- Whether all workers are over, the rows of the finished metrics, and the keys that are left. -/
def racedOutcome (schedule : List Nat) : Bool × Nat × List Bytes :=
  let b : Board := ⟨["disk", "load"], 2, 0, 0, 0, 0, 0, 0, [.found 2 "" 0]⟩
  let last := (follow (Memory.world racedUids []) racedOptions schedule
    ⟨b, [.idle, .idle]⟩).run racedMemory
  (last.1.isOver, last.1.board.touched, last.2.keys)

theorem outset_raced : outset racedUids [] racedOptions =
    ⟨⟨["disk", "load"], 2, 0, 0, 0, 0, 0, 0, [.found 2 "" 0]⟩, [.idle, .idle]⟩ := by
  have hmatching : racedUids.matching racedOptions.opening = ["disk", "load"] :=
    List.mergeSort_of_pairwise (by decide)
  have htodo : toDo racedUids [] racedOptions = ["disk", "load"] := by
    rw [toDo, hmatching]
    decide
  rw [outset, htodo, hmatching]
  rfl

theorem completes_raced {schedule : List Nat} {touched : Nat} {keys : List Bytes}
    (h : racedOutcome schedule = (true, touched, keys)) :
    ∃ summary m', Completes racedUids [] racedOptions schedule racedMemory summary m' ∧
      summary.touched = touched ∧ m'.keys = keys := by
  rw [racedOutcome, ← outset_raced] at h
  simp only [Prod.mk.injEq] at h
  obtain ⟨hover, htouched, hkeys⟩ := h
  exact ⟨_, _, (completes_iff []).mpr ⟨_, rfl, hover, rfl⟩, htouched, hkeys⟩

/-- When the end is the present, two orders of the steps of the same workers end with different
rows, as the queries meet different presents. -/
theorem completes_apart_of_present :
    (racedUids.metrics.map Prod.snd).Nodup ∧ Aggregator.ofWord? racedOptions.stop = none ∧
      racedMemory.heldRecords = [] ∧ ∃ summary m₁ summary' m₂,
      Completes racedUids [] racedOptions loneSchedule racedMemory summary m₁ ∧
      Completes racedUids [] racedOptions sharedSchedule racedMemory summary' m₂ ∧
      summary.touched = 3 ∧ summary'.touched = 2 ∧ m₁.keys = [] ∧ m₂.keys = [[1, 78, 32]] := by
  have hfirst : racedOutcome loneSchedule = (true, 3, []) := by decide +kernel
  have hsecond : racedOutcome sharedSchedule = (true, 2, [[1, 78, 32]]) := by decide +kernel
  obtain ⟨summary, m₁, hlone, htouched, hkeys⟩ := completes_raced hfirst
  obtain ⟨summary', m₂, hshared, htouched', hkeys'⟩ := completes_raced hsecond
  exact ⟨by decide, by decide, rfl, summary, m₁, summary', m₂, hlone, hshared, htouched, htouched',
    hkeys, hkeys'⟩

end Purge

end RawSeries
