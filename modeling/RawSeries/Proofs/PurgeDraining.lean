import RawSeries.Proofs.PurgeOrder
import RawSeries.Proofs.PurgeResumption
import RawSeries.Proofs.QueryGrammar
import RawSeries.Proofs.ScanRange

namespace RawSeries

theorem Query.exists_bounds {q : Query} (hstart : q.scanStart = 0) (hstop : 0 ≤ q.scanStop) :
    ∃ first last, q.startRow = .ok first ∧ q.stopRow = .ok last := by
  have hpos : 0 < Nat.pow 256 q.layout.time := Nat.pow_pos (by decide)
  have hlast : 0 ≤ min q.scanStop (Nat.pow 256 q.layout.time - 1 : Int) := by omega
  exact ⟨_, _, bound_of_fits (Int.le_of_eq hstart.symm) (by omega),
    bound_of_fits hlast (by omega)⟩

/-- A key belongs to the metric of a query, and its time lies in the range that is scanned. -/
structure Query.Targets (q : Query) (key : Bytes) : Prop where
  length : q.layout.head ≤ key.length
  metric : Key.metricOf q.layout key = q.uid
  start : q.scanStart ≤ Key.timeOf q.layout key
  stop : (Key.timeOf q.layout key : Int) < min q.scanStop (Nat.pow 256 q.layout.time - 1)

theorem Query.Targets.covers {q : Query} {first stop key : Bytes} (h : q.Targets key)
    (hplain : q.filters = []) (hfirst : q.startRow = .ok first) (hstop : q.stopRow = .ok stop) :
    q.covers key = true := by
  have hafter : Bytes.before key first = false := by
    rw [← Bool.not_eq_true, before_bound_iff hfirst h.length h.metric]
    exact Int.not_lt.mpr h.start
  have hbefore : Bytes.before key stop = true :=
    (before_bound_iff hstop h.length h.metric).mpr h.stop
  simp [Query.covers, hfirst, hstop, hafter, hbefore, accepts, h.metric, hplain]

namespace Purge

theorem Tally.of_counts (results : List (Except Fault Nat)) :
    (of results).finished = results.countP Except.isOk ∧
      (of results).failed = results.countP fun r => !r.isOk := by
  induction results with
  | nil => exact ⟨rfl, rfl⟩
  | cons r results ih =>
      obtain ⟨hfinished, hfailed⟩ := ih
      cases r with
      | ok rows =>
          rw [List.countP_cons_of_pos rfl,
            List.countP_cons_of_neg (by simp [Except.isOk, Except.toBool]), ← hfinished]
          exact ⟨rfl, hfailed⟩
      | error f =>
          rw [List.countP_cons_of_neg (by simp [Except.isOk, Except.toBool]),
            List.countP_cons_of_pos rfl, ← hfailed]
          exact ⟨hfinished, rfl⟩

/-- What the words of a metric are refused for when its name is a word that may stand before a
metric. -/
def misread? (metric : String) : Option Fault :=
  if metric = "rate" then some (.query (.missing "metric"))
  else if metric = "downsample" then some (.query (.missing "downsample interval"))
  else none

variable {uids : UidTable} {o : Options} {times : String → Quantity} {metric : String} {stop : Int}

theorem read_of_misread {f : Fault} (h : misread? metric = some f) :
    Clause.read [Aggregator.sum.word, metric] = .error f := by
  unfold misread? at h
  split at h
  · rename_i hrate
    rw [hrate]
    cases h
    rfl
  split at h
  · rename_i hdownsample
    rw [hdownsample]
    cases h
    rfl
  · cases h

theorem read_of_plain (h : misread? metric = none) :
    Clause.read [Aggregator.sum.word, metric] = .ok (⟨.sum, false, none, metric, []⟩, []) := by
  have hrate : metric ≠ "rate" := by
    rintro rfl
    cases h
  have hdownsample : metric ≠ "downsample" := by
    rintro rfl
    cases h
  apply Clause.read_eq_ok_iff.mpr
  exact ⟨_, .intro .no .none (fun h => absurd h hrate) (fun h => absurd h hdownsample) nofun, rfl,
    nofun⟩

def query (o : Options) (metric : String) (uid : Bytes) (stop : Int) : Query :=
  ⟨metric, uid, 0, stop, .sum, false, none, [], o.layout⟩

theorem plan_eq (hread : Instant.read (times metric) o.stop = .ok stop) (hpos : 0 ≤ stop) :
    plan uids o times metric =
      Query.readClauses uids.directory o.layout 0 stop 2 [Aggregator.sum.word, metric] := by
  have hstart : Instant.read (times metric) "0" = .ok 0 := rfl
  have hword := ofWord?_of_read hread
  have hend : Query.readStop (times metric) [o.stop, Aggregator.sum.word, metric] =
      .ok (stop, [Aggregator.sum.word, metric]) := by
    simp only [Query.readStop, hword, hread, Option.isNone_none, if_true]
    rfl
  simp only [plan, words, Query.read, hstart, hend]
  exact if_neg (by omega)

theorem plan_of_misread (hread : Instant.read (times metric) o.stop = .ok stop) (hpos : 0 ≤ stop)
    {f : Fault} (h : misread? metric = some f) : plan uids o times metric = .error f := by
  rw [plan_eq hread hpos, Query.readClauses, read_of_misread h]
  · rfl
  · simp

theorem plan_of_plain (hread : Instant.read (times metric) o.stop = .ok stop) (hpos : 0 ≤ stop)
    {uid : Bytes} (huid : uids.id? .metric metric = some uid) (h : misread? metric = none) :
    plan uids o times metric = .ok [query o metric uid stop] := by
  have hid : (uids.directory : Directory (Except Fault)).id .metric metric = .ok uid := by
    simp only [UidTable.directory, huid]
    rfl
  have hclause : (Query.ofClause uids.directory o.layout 0 stop ⟨.sum, false, none, metric, []⟩ :
      Except Fault Query) = .ok (query o metric uid stop) := by
    simp only [Query.ofClause, List.mapM_nil, hid]
    rfl
  rw [plan_eq hread hpos, Query.readClauses, read_of_plain h]
  · simp only [Query.orFail, pure_bind, hclause]
    rfl
  · simp

theorem query_bounds (o : Options) (metric : String) (uid : Bytes) (hpos : 0 ≤ stop) :
    ∃ first last, (query o metric uid stop).startRow = .ok first ∧
      (query o metric uid stop).stopRow = .ok last := by
  apply Query.exists_bounds
  · rfl
  · unfold Query.scanStop Query.rowSpan Query.padding query
    dsimp only
    omega

variable {m m' : Memory}

theorem settled_of_plain (hread : Instant.read (times metric) o.stop = .ok stop) (hpos : 0 ≤ stop)
    {uid : Bytes} (huid : uids.id? .metric metric = some uid) (hplain : misread? metric = none)
    (hsize : 0 < m.pageSize) (hkeys : m.heldKeys = []) (hmetrics : m.heldMetrics = []) :
    ∃ hits, settled uids o times m metric = (hits, .ok hits.length) := by
  obtain ⟨first, last, hfirst, hlast⟩ := query_bounds o metric uid hpos
  have hhits : m.handsOut (query o metric uid stop) = .ok (m.rows.filter fun row =>
      (query o metric uid stop).reaches m.pageSize row.key) := by
    rw [Memory.handsOut_of_plain rfl, hmetrics, hfirst, hlast]
    simp only [Except.bind, if_neg (Int.ne_of_gt hsize)]
    rfl
  rw [settled_of_plan (plan_of_plain hread hpos huid hplain)]
  exact ⟨_, by rw [hkeys, ← fate_free, ← hhits]⟩

theorem reaches_of_targets (hread : Instant.read (times metric) o.stop = .ok stop) (hpos : 0 ≤ stop)
    {uid : Bytes} (huid : uids.id? .metric metric = some uid) (hplain : misread? metric = none)
    {size : Int} (hsize : 0 < size) {key : Bytes} (h : (query o metric uid stop).Targets key) :
    reaches uids o times size metric key = true := by
  obtain ⟨first, last, hfirst, hlast⟩ := query_bounds o metric uid hpos
  rw [reaches_of_plan (plan_of_plain hread hpos huid hplain), Query.reaches,
    h.covers rfl hfirst hlast, decide_eq_true hsize]
  rfl

theorem settled_of_misread (hread : Instant.read (times metric) o.stop = .ok stop) (hpos : 0 ≤ stop)
    {f : Fault} (h : misread? metric = some f) : settled uids o times m metric = ([], .error f) := by
  rw [settled, plan_of_misread hread hpos h]

theorem id?_of_matching (h : metric ∈ uids.matching o.opening) :
    ∃ uid, uids.id? .metric metric = some uid := by
  have hmem : metric ∈ uids.metrics.map (·.1) :=
    (List.mem_filter.mp (List.mem_mergeSort.mp h)).1
  obtain ⟨entry, hentry, rfl⟩ := List.mem_map.mp hmem
  apply Option.isSome_iff_exists.mp
  exact List.lookup_isSome_iff.mpr ⟨entry, hentry, by simp⟩

theorem counts_of_misread
    (hends : ∀ metric, ∃ stop, 0 ≤ stop ∧ Instant.read (times metric) o.stop = .ok stop)
    (hsize : 0 < m.pageSize) (hkeys : m.heldKeys = []) (hmetrics : m.heldMetrics = []) :
    ((uids.matching o.opening).map fun metric => (settled uids o times m metric).2).countP
        (fun r => !r.isOk) =
      (uids.matching o.opening).countP fun metric => (misread? metric).isSome := by
  rw [List.countP_map]
  apply List.countP_congr
  intro metric hmetric
  obtain ⟨stop, hpos, hread⟩ := hends metric
  cases hmisread : misread? metric with
  | none =>
      obtain ⟨uid, huid⟩ := id?_of_matching hmetric
      obtain ⟨hits, hsettled⟩ := settled_of_plain hread hpos huid hmisread hsize hkeys hmetrics
      simp [hsettled, Except.isOk, Except.toBool]
  | some f => simp [settled_of_misread hread hpos hmisread, Except.isOk, Except.toBool]

theorem not_reaches_of_misread (hread : Instant.read (times metric) o.stop = .ok stop)
    (hpos : 0 ≤ stop)
    (huids : ∀ one ∈ uids.matching o.opening, ∀ other ∈ uids.matching o.opening,
      uids.id? .metric one = uids.id? .metric other → one = other)
    (hmetric : metric ∈ uids.matching o.opening) {f : Fault} (hmisread : misread? metric = some f)
    {size : Int} {key : Bytes}
    (hkey : uids.id? .metric metric = some (Key.metricOf o.layout key)) :
    ∀ other ∈ uids.matching o.opening, ¬reaches uids o times size other key = true := by
  intro other hother hreaches
  have hsame := id?_of_reaches (ofWord?_of_read hread) hreaches
  rw [← hkey] at hsame
  rw [huids other hother metric hmetric hsame, reaches, plan_of_misread hread hpos hmisread]
    at hreaches
  cases hreaches

theorem unheld_of_free (hkeys : m.heldKeys = []) (hmetrics : m.heldMetrics = [])
    (hrecords : m.heldRecords = []) : m.unheld = m := by
  unfold Memory.unheld
  rw [← hkeys, ← hmetrics, ← hrecords]

/-- A purge in which nothing is refused comes to its end, whatever its schedule. The metrics that
have failed then are those that are misread, and these keep their rows. Of all other metrics no row
is left that the scan of the metric is to reach. -/
theorem completes_drains (uids : UidTable) (hnames : (uids.metrics.map Prod.fst).Nodup)
    (o : Options) (hends : ∀ n, ∃ stop, 0 ≤ stop ∧ Instant.read (o.now n) o.stop = .ok stop)
    (huids : ∀ one ∈ uids.matching o.opening, ∀ other ∈ uids.matching o.opening,
      uids.id? .metric one = uids.id? .metric other → one = other)
    (hworkers : 0 < o.workers) (m : Memory) (hsize : 0 < m.pageSize) (hkeys : m.heldKeys = [])
    (hmetrics : m.heldMetrics = []) (hrecords : m.heldRecords = []) :
    (∀ schedule, (∀ id < o.workers, Memory.enough uids m ≤ schedule.count id) →
      ∃ summary m', Completes uids [] o schedule m summary m') ∧
    (∃ schedule summary notices m', Completes uids [] o schedule m summary m' ∧
      (Memory.purge uids [] o).run.run m = (.ok (summary, notices), m')) ∧
    ∀ schedule summary m', Completes uids [] o schedule m summary m' →
      summary.metrics = (uids.matching o.opening).length ∧ summary.skipped = 0 ∧
      summary.finished + summary.failed = summary.metrics ∧
      summary.failed =
        (uids.matching o.opening).countP (fun metric => (misread? metric).isSome) ∧
      ∃ added, m'.records = m.records ++ added ∧
        ∀ metric ∈ uids.matching o.opening, ∃ uid stop, uids.id? .metric metric = some uid ∧
          Instant.read (presents uids [] o schedule m metric) o.stop = .ok stop ∧
          (misread? metric = none → ∀ row ∈ m'.rows, ¬(query o metric uid stop).Targets row.key) ∧
          ∀ f, misread? metric = some f →
            remarks metric added = [begins, (.failed, .whole 0, some f.line)] ∧
            ∀ row ∈ m.rows, Key.metricOf o.layout row.key = uid → row ∈ m'.rows := by
  obtain ⟨_, -, hfirst⟩ := hends 0
  have hstop := ofWord?_of_read hfirst
  refine ⟨?_, purge_completes [] uids hstop m, ?_⟩
  · intro schedule hfair
    exact completes_of_fair [] hstop m hfair
  intro schedule summary m' h
  have hends := exists_end_of_presents uids [] o hends schedule m
  -- Nothing is refused, so that the rows are known as those of a memory in which nothing is held.
  have hfree : Completes uids [] o schedule m.unheld summary m' := by
    rwa [unheld_of_free hkeys hmetrics hrecords]
  have hrows := hfree.rows hnames hstop rfl hworkers
  rw [unheld_of_free hkeys hmetrics hrecords] at hrows
  generalize htimes : presents uids [] o schedule m = times at hends hrows ⊢
  have hapart : Apart uids o times (toDo uids [] o) := apart_of_uids hstop (by rwa [toDo_nil])
  obtain ⟨-, rfl, added, hadded, hnoted, -⟩ :=
    h.settled hnames hstop htimes hapart hworkers hrecords
  simp only [toDo_nil] at hnoted hrows ⊢
  obtain ⟨hfinished, hfailed⟩ := Tally.of_counts
    ((uids.matching o.opening).map fun metric => (settled uids o times m metric).2)
  have htotal := Tally.of_total
    ((uids.matching o.opening).map fun metric => (settled uids o times m metric).2)
  have hnone : (uids.matching o.opening).countP [].contains = 0 := by simp
  refine ⟨?_, hnone, ?_, ?_, added, hadded, ?_⟩
  · simp [Summary.of, hnone]
  · rw [Summary.of, hnone, htotal, Nat.zero_add]
  · rw [Summary.of, hfailed, counts_of_misread hends hsize hkeys hmetrics]
  intro metric hmetric
  obtain ⟨uid, huid⟩ := id?_of_matching hmetric
  obtain ⟨stop, hpos, hread⟩ := hends metric
  refine ⟨uid, stop, huid, hread, ?_, ?_⟩
  · intro hplain row hrow htargets
    rw [hrows] at hrow
    obtain ⟨-, hkept⟩ := List.mem_filter.mp hrow
    rw [Bool.not_eq_true', List.any_eq_false] at hkept
    exact hkept metric hmetric (reaches_of_targets hread hpos huid hplain hsize htargets)
  · intro f hmisread
    constructor
    · rw [hnoted metric hmetric, settled_of_misread hread hpos hmisread]
      rfl
    · rintro row hrow rfl
      rw [hrows]
      refine List.mem_filter.mpr ⟨hrow, ?_⟩
      rw [Bool.not_eq_true', List.any_eq_false]
      exact not_reaches_of_misread hread hpos huids hmetric hmisread huid

/-- A metric like others, and one with the name of a word. -/
def rateUids : UidTable where
  metrics := [("load", [1]), ("rate", [2])]
  tagKeys := []
  tagValues := []

theorem rateUids_matching : rateUids.matching "" = ["load", "rate"] :=
  List.mergeSort_of_pairwise (by decide)

theorem completes_drains_rate :
    (rateUids.metrics.map Prod.fst).Nodup ∧
      (∀ n, ∃ stop, 0 ≤ stop ∧ Instant.read (sampleOptions.now n) sampleOptions.stop = .ok stop) ∧
      (∀ one ∈ rateUids.matching "", ∀ other ∈ rateUids.matching "",
        rateUids.id? .metric one = rateUids.id? .metric other → one = other) ∧
      0 < sampleOptions.workers ∧ 0 < sampleMemory.pageSize ∧ sampleMemory.heldKeys = [] ∧
      sampleMemory.heldMetrics = [] ∧ sampleMemory.heldRecords = [] ∧
      ∃ schedule summary m', Completes rateUids [] sampleOptions schedule sampleMemory summary m' ∧
        summary.metrics = 2 ∧ summary.failed = 1 ∧ [1, 0, 12] ∉ m'.keys ∧ [2, 0, 9] ∈ m'.keys := by
  have hnames : (rateUids.metrics.map Prod.fst).Nodup := by decide
  have hends : ∀ n, ∃ stop, 0 ≤ stop ∧
      Instant.read (sampleOptions.now n) sampleOptions.stop = .ok stop :=
    fun _ => ⟨20, by decide, rfl⟩
  have huids : ∀ one ∈ rateUids.matching "", ∀ other ∈ rateUids.matching "",
      rateUids.id? .metric one = rateUids.id? .metric other → one = other := by
    rw [rateUids_matching]
    decide
  have hrows : sampleMemory.rows =
      [⟨[1, 0, 9], []⟩, ⟨[1, 0, 12], [⟨[0, 0], [7]⟩]⟩, ⟨[2, 0, 9], []⟩] := rfl
  obtain ⟨-, ⟨schedule, summary, notices, m', hcompletes, -⟩, hall⟩ :=
    completes_drains rateUids hnames sampleOptions hends huids (by decide) sampleMemory
      (by decide) rfl rfl rfl
  obtain ⟨hmetrics, -, -, hfailed, added, -, heach⟩ := hall schedule summary m' hcompletes
  have hopening : rateUids.matching sampleOptions.opening = ["load", "rate"] := rateUids_matching
  rw [hopening] at hmetrics hfailed heach
  obtain ⟨uid, stop, huid, hstop, hdrained, -⟩ := heach "load" (by simp)
  obtain ⟨uid', _, huid', -, -, hkept⟩ := heach "rate" (by simp)
  cases huid
  cases huid'
  cases hstop
  refine ⟨hnames, hends, huids, by decide, by decide, rfl, rfl, rfl, schedule, summary,
    m', hcompletes, hmetrics, hfailed, ?_, ?_⟩
  · intro hkey
    obtain ⟨row, hrow, hkey⟩ := List.mem_map.mp hkey
    apply hdrained rfl row hrow
    rw [hkey]
    constructor <;> decide
  · have hrow : (⟨[2, 0, 9], []⟩ : Row) ∈ m'.rows :=
      (hkept _ rfl).2 _ (by simp [hrows]) rfl
    exact List.mem_map.mpr ⟨_, hrow, rfl⟩

/-- The only metric has the name of a word. -/
def soleUids : UidTable where
  metrics := [("rate", [1])]
  tagKeys := []
  tagValues := []

/-- The metrics that finish and those that fail, and the keys that are left. -/
def soleOutcome : Nat × Nat × List Bytes :=
  match (Memory.purge soleUids [] sampleOptions).run.run sampleMemory with
  | (.ok (summary, _), m) => (summary.finished, summary.failed, m.keys)
  | (.error _, m) => (0, 0, m.keys)

theorem rate_not_drained :
    (∀ n, Instant.read (sampleOptions.now n) sampleOptions.stop = .ok 20) ∧
      soleUids.matching sampleOptions.opening = ["rate"] ∧ 0 < sampleOptions.workers ∧
      0 < sampleMemory.pageSize ∧ sampleMemory.heldKeys = [] ∧ sampleMemory.heldMetrics = [] ∧
      sampleMemory.heldRecords = [] ∧ soleUids.id? .metric "rate" = some [1] ∧
      (query sampleOptions "rate" [1] 20).Targets [1, 0, 12] ∧
      soleOutcome = (0, 1, [[1, 0, 9], [1, 0, 12], [2, 0, 9]]) := by
  refine ⟨fun _ => rfl, ?_, by decide, by decide, rfl, rfl, rfl, rfl, ?_, by decide +kernel⟩
  · exact List.mergeSort_of_pairwise (by decide)
  · constructor <;> decide

end Purge

end RawSeries
