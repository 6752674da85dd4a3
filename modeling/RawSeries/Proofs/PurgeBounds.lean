import RawSeries.Proofs.PurgeDraining

namespace RawSeries

/-- A key of the metric before a bound has an earlier base time, also when bytes of the time are
missing. -/
theorem Query.timeOf_lt_of_before {q : Query} {time : Int} {b key : Bytes}
    (hbound : q.bound time = .ok b) (hmetric : Key.metricOf q.layout key = q.uid)
    (hpos : q.layout.time = 0 ∨ 0 < time) (h : Bytes.before key b = true) :
    (Key.timeOf q.layout key : Int) < time := by
  obtain ⟨-, hfits, rfl⟩ := bound_eq_ok hbound
  let rest := key.drop q.layout.metric
  let moment := rest.take q.layout.time
  have hkey : key = q.uid ++ rest := by
    rw [← hmetric, Key.metricOf, List.take_append_drop]
  have hrest : rest < Bytes.encode q.layout.time time.toNat := by
    rw [Bytes.before_iff, hkey, Bytes.append_lt_append_iff rfl] at h
    exact (h.resolve_left (List.lt_irrefl q.uid)).2
  rcases hpos with hnone | hpos
  · rw [hnone] at hrest
    exact absurd hrest (List.not_lt_nil rest)
  have hvalue : Bytes.value (Bytes.encode q.layout.time time.toNat) = time.toNat := by
    rw [Bytes.value_encode, Nat.mod_eq_of_lt (by omega)]
  have hmoment : moment < Bytes.encode q.layout.time time.toNat :=
    List.lt_of_le_of_lt (List.take_prefix _ rest).le hrest
  have hlength : moment.length ≤ (Bytes.encode q.layout.time time.toNat).length := by
    rw [Bytes.length_encode]
    exact List.length_take_le _ rest
  have hlt := Bytes.value_lt_of_lt hmoment hlength (by omega)
  have htime : Key.timeOf q.layout key = Bytes.value moment := rfl
  omega

theorem Query.before_stop_of_covers {q : Query} {key : Bytes} (h : q.covers key = true) :
    ∃ last, q.stopRow = .ok last ∧ Bytes.before key last = true := by
  unfold covers at h
  split at h
  · rename_i first last hfirst hlast
    simp only [Bool.and_eq_true] at h
    exact ⟨last, hlast, h.1.2⟩
  · cases h

namespace Purge

variable {uids : UidTable} {o : Options} {times : String → Quantity} {metric : String} {stop : Int}

theorem time_of_reaches (hread : Instant.read (times metric) o.stop = .ok stop) (hpos : 0 ≤ stop)
    {size : Int} {key : Bytes} (h : reaches uids o times size metric key = true) :
    (Key.timeOf o.layout key : Int) <
      min (stop + Query.rowSpan + 1) (Nat.pow 256 o.layout.time - 1) := by
  cases hplan : plan uids o times metric with
  | error f =>
      rw [reaches, hplan] at h
      cases h
  | ok queries =>
      obtain ⟨q, rfl, uid, own, -, hown, rfl⟩ := read_words uids (ofWord?_of_read hread) hplan
      obtain rfl : stop = own := Except.ok.inj (hread.symm.trans hown)
      rw [reaches_of_plan hplan] at h
      obtain ⟨last, hlast, hbefore⟩ :=
        Query.before_stop_of_covers (Bool.and_eq_true_iff.mp h).2
      have hrange : o.layout.time = 0 ∨
          (0 : Int) < min (stop + Query.rowSpan + 1 + 0) (Nat.pow 256 o.layout.time - 1) := by
        rcases Nat.eq_zero_or_pos o.layout.time with hnone | htime
        · exact .inl hnone
        · have hpow : Nat.pow 256 1 ≤ Nat.pow 256 o.layout.time :=
            Nat.pow_le_pow_right (by decide) htime
          have hone : Nat.pow 256 1 = 256 := rfl
          unfold Query.rowSpan
          omega
      have hlt := Query.timeOf_lt_of_before hlast (metricOf_of_reaches h) hrange hbefore
      rw [← Int.add_zero (stop + Query.rowSpan + 1)]
      exact hlt

/-- Whatever becomes of a purge, and in whatever order its workers take their steps, it deletes only
rows of metrics with its opening that begin at most one row span after its end, as the end was read
when the query of the metric was made. Rows that have the unique ID of another metric are spared. -/
theorem deletes_bounded (uids : UidTable) (hnames : (uids.metrics.map Prod.fst).Nodup)
    (o : Options) (hends : ∀ n, ∃ stop, 0 ≤ stop ∧ Instant.read (o.now n) o.stop = .ok stop)
    (done : List String) (m : Memory) (schedule : List Nat) :
    ∃ skipped s s' m' gone,
      (prepare (Memory.world uids done) o).run.run m = (.ok (skipped, s), m) ∧
      (follow (Memory.world uids done) o schedule s).run m = (s', m') ∧
      m'.deleted = m.deleted ++ gone ∧
      m'.rows = m.rows.filter (fun row => !gone.contains row.key) ∧
      (∀ key ∈ gone, ∃ metric ∈ uids.matching o.opening, ∃ stop,
        uids.id? .metric metric = some (Key.metricOf o.layout key) ∧ metric ∉ done ∧
        Instant.read (presents uids done o schedule m metric) o.stop = .ok stop ∧
        (Key.timeOf o.layout key : Int) < stop + Query.rowSpan + 1 ∧
        (Key.timeOf o.layout key : Int) < Nat.pow 256 o.layout.time - 1) ∧
      ∀ name, (∀ metric ∈ uids.matching o.opening,
          uids.id? .metric metric ≠ uids.id? .metric name) →
        ∀ row ∈ m.rows, uids.id? .metric name = some (Key.metricOf o.layout row.key) →
          row ∈ m'.rows := by
  obtain ⟨_, -, hfirst⟩ := hends 0
  have hstop := ofWord?_of_read hfirst
  obtain ⟨s', m', added, account, hfollow, hcourse⟩ := follow_course done hnames hstop m schedule
  obtain ⟨gone, hloses, hperm⟩ := hcourse.loses
  -- No row goes that the query of its metric does not cover.
  have hreached : ∀ key ∈ gone.map Row.key, ∃ metric ∈ toDo uids done o,
      reaches uids o (presents uids done o schedule m) m.pageSize metric key = true := by
    intro key hkey
    obtain ⟨row, hrow, rfl⟩ := List.mem_map.mp hkey
    obtain ⟨metric, hmetric, hhandled⟩ := List.mem_flatMap.mp (hperm.mem_iff.mp hrow)
    exact ⟨metric, hmetric, hcourse.reached hstop hhandled⟩
  refine ⟨_, _, s', m', gone.map Row.key, prepare_run uids done o m, hfollow, hloses.deleted,
    hloses.rows, ?_, ?_⟩
  · intro key hkey
    obtain ⟨metric, hmetric, hreaches⟩ := hreached key hkey
    obtain ⟨hopening, hnew⟩ := List.mem_filter.mp hmetric
    obtain ⟨stop, hpos, hread⟩ := exists_end_of_presents uids done o hends schedule m metric
    have htime := time_of_reaches hread hpos hreaches
    exact ⟨metric, hopening, stop, id?_of_reaches hstop hreaches, by simpa using hnew, hread,
      by omega, by omega⟩
  · intro name hother row hrow hname
    rw [hloses.rows, Memory.without]
    refine List.mem_filter.mpr ⟨hrow, ?_⟩
    rw [Bool.not_eq_true', ← Bool.not_eq_true, List.contains_iff_mem]
    intro hkey
    obtain ⟨metric, hmetric, hreaches⟩ := hreached row.key hkey
    exact hother metric (List.mem_filter.mp hmetric).1
      ((id?_of_reaches hstop hreaches).trans hname.symm)

/-- Two metrics, of which the first has the opening of the purge. -/
def openingUids : UidTable where
  metrics := [("load", [1]), ("store", [2])]
  tagKeys := []
  tagValues := []

def openingOptions : Options :=
  { sampleOptions with opening := "lo" }

theorem openingUids_matching : openingUids.matching "lo" = ["load"] :=
  List.mergeSort_of_pairwise (by decide)

/-- A row before the end, one right after it, one more than a row span after it, and one of the
other metric. -/
def lateMemory : Memory :=
  Memory.ofRows [⟨[1, 0, 12], []⟩, ⟨[1, 0, 30], []⟩, ⟨[1, 14, 200], []⟩, ⟨[2, 0, 9], []⟩] 1

def lateSchedule : List Nat :=
  List.replicate 12 0

/-- The keys that are deleted, and those that are left. -/
def lateOutcome : List Bytes × List Bytes :=
  match (prepare (Memory.world openingUids []) openingOptions).run.run lateMemory with
  | (.ok (_, s), m) =>
      let m' := ((follow (Memory.world openingUids []) openingOptions lateSchedule s).run m).2
      (m'.deleted, m'.keys)
  | _ => ([], [])

theorem deletes_bounded_late :
    (openingUids.metrics.map Prod.fst).Nodup ∧
      (∀ n, ∃ stop, 0 ≤ stop ∧
        Instant.read (openingOptions.now n) openingOptions.stop = .ok stop) ∧
      ∃ skipped s s' m' gone,
        (prepare (Memory.world openingUids []) openingOptions).run.run lateMemory =
          (.ok (skipped, s), lateMemory) ∧
        (follow (Memory.world openingUids []) openingOptions lateSchedule s).run lateMemory =
          (s', m') ∧
        m'.deleted = lateMemory.deleted ++ gone ∧ [1, 0, 12] ∈ gone ∧
        (∀ key ∈ gone, (Key.timeOf openingOptions.layout key : Int) < 3621 ∧
          openingUids.id? .metric "load" = some (Key.metricOf openingOptions.layout key)) ∧
        ⟨[2, 0, 9], []⟩ ∈ m'.rows := by
  have hnames : (openingUids.metrics.map Prod.fst).Nodup := by decide
  have hends : ∀ n, ∃ stop, 0 ≤ stop ∧
      Instant.read (openingOptions.now n) openingOptions.stop = .ok stop :=
    fun _ => ⟨20, by decide, rfl⟩
  obtain ⟨skipped, s, s', m', gone, hprepare, hfollow, hdeleted, -, hbounds, hspared⟩ :=
    deletes_bounded openingUids hnames openingOptions hends [] lateMemory lateSchedule
  have hopening : openingUids.matching openingOptions.opening = ["load"] := openingUids_matching
  rw [hopening] at hbounds hspared
  have houtcome : lateOutcome.1 = [[1, 0, 12], [1, 0, 30]] := by decide +kernel
  have hgone : m'.deleted = gone := hdeleted
  rw [lateOutcome, hprepare] at houtcome
  simp only [hfollow, hgone] at houtcome
  refine ⟨hnames, hends, skipped, s, s', m', gone, hprepare, hfollow, hdeleted, ?_, ?_,
    ?_⟩
  · rw [houtcome]
    exact List.mem_cons_self
  · intro key hkey
    obtain ⟨metric, hmetric, stop, huid, -, hstop, htime, -⟩ := hbounds key hkey
    obtain rfl := List.mem_singleton.mp hmetric
    cases hstop
    exact ⟨htime, huid⟩
  · exact hspared "store" (by decide) _ (by decide +kernel) rfl

/-- A row that begins ten seconds after the end is deleted. -/
theorem deletes_after_end :
    (∀ n, Instant.read (openingOptions.now n) openingOptions.stop = .ok 20) ∧
      Key.split openingOptions.layout [1, 0, 30] = .ok ⟨[1], 30, []⟩ ∧
      lateOutcome = ([[1, 0, 12], [1, 0, 30]], [[1, 14, 200], [2, 0, 9]]) :=
  ⟨fun _ => rfl, by cbv, by decide +kernel⟩

end Purge

end RawSeries
