import RawSeries.Proofs.QueryGrammar
import RawSeries.Proofs.ScanRange
import RawSeries.Settings.Basic

namespace RawSeries

namespace Query

/-- Both ends of the range have keys of a length, the start before the stop. -/
def Scannable (q : Query) (length : Nat) : Prop :=
  ∃ first stop, q.startRow = .ok first ∧ q.stopRow = .ok stop ∧ first.length = length ∧
    stop.length = length ∧ Bytes.before first stop = true

theorem bound_of_negative {q : Query} {time : Int} (h : time < 0) :
    q.bound time = .error .negativeTime := by
  rw [bound, Bytes.encode?, if_neg (by omega)]
  exact congrArg Except.error (if_pos h)

theorem bound_of_long {q : Query} {time : Int} (h : (Nat.pow 256 q.layout.time : Int) ≤ time) :
    q.bound time = .error .longTime := by
  rw [bound, Bytes.encode?, if_neg (by omega)]
  exact congrArg Except.error (if_neg (by omega))

theorem length_of_bound {q : Query} {time : Int} {b : Bytes} (h : q.bound time = .ok b) :
    b.length = q.uid.length + q.layout.time := by
  obtain ⟨-, -, rfl⟩ := bound_eq_ok h
  rw [List.length_append, Bytes.length_encode]

theorem bounds_before_iff {q : Query} {time time' : Int} {b b' : Bytes} (h : q.bound time = .ok b)
    (h' : q.bound time' = .ok b') : Bytes.before b b' = true ↔ time < time' := by
  obtain ⟨hpos, hfits, rfl⟩ := bound_eq_ok h
  obtain ⟨hpos', hfits', rfl⟩ := bound_eq_ok h'
  have hlength : (Bytes.encode q.layout.time time.toNat).length =
      (Bytes.encode q.layout.time time'.toNat).length := by
    rw [Bytes.length_encode, Bytes.length_encode]
  have hsame : ¬q.uid < q.uid := List.lt_irrefl q.uid
  rw [Bytes.before_iff, Bytes.append_lt_append_iff rfl, Bytes.lt_iff_value_lt hlength,
    Bytes.value_encode, Bytes.value_encode, Nat.mod_eq_of_lt (by omega),
    Nat.mod_eq_of_lt (by omega)]
  simp only [hsame, false_or, true_and]
  omega

/-- What the words of a clause leave of a query: a range in order, and an interval of downsampling
that is not below none. -/
structure Formed {σ : Type} (d : Directory (Task σ)) (l : Layout) (q : Query) : Prop where
  layout : q.layout = l
  order : q.start ≤ q.stop
  padding : 0 ≤ q.padding
  looked : ∃ s s', (d.id .metric q.metric).run.run s = (.ok q.uid, s')

variable {σ : Type} {d : Directory (Task σ)} {l : Layout} {s s' : σ}

theorem ClauseReads.formed {start stop : Int} {words : List String} {q : Query}
    (h : ClauseReads d l start stop s words q s') (horder : start ≤ stop) : q.Formed d l := by
  cases h with
  | intro hspells hfilters huid =>
      refine ⟨rfl, horder, ?_, ⟨_, _, huid⟩⟩
      cases hspells with
      | intro hrate hdownsample =>
          cases hdownsample with
          | some hinterval => exact Int.natCast_nonneg _
          | none => exact Int.le_refl 0

theorem formed_of_read {now : Quantity} {words : List String} {queries : List Query}
    (h : (read d l now words).run.run s = (.ok queries, s')) : ∀ q ∈ queries, q.Formed d l := by
  cases read_eq_ok_iff.mp h with
  | between hstart hlast hstop horder hsome hclauses =>
      exact hclauses.forall_mem fun _ _ _ _ hclause => hclause.formed horder
  | untilNow hstart hstop horder hsome hclauses =>
      exact hclauses.forall_mem fun _ _ _ _ hclause => hclause.formed horder

/-- The keys between which a query as it was read is scanned, where they exist. They are in order
unless both are kept at the last time of row keys, or both at the epoch. -/
theorem read_scannable_iff (d : Directory (Task σ)) (settings : Settings)
    (hids : ∀ name s uid s', (d.id .metric name).run.run s = (.ok uid, s') →
      uid.length = settings.metricWidth)
    {now : Quantity} {words : List String} {queries : List Query}
    (hread : (read d settings.layout now words).run.run s = (.ok queries, s')) :
    ∀ q ∈ queries,
      q.startRow = (if 4294967296 ≤ q.start - 7200 - q.padding then .error .longTime
        else .ok (q.uid ++ Bytes.encode 4 (q.start - 7200 - q.padding).toNat)) ∧
      q.stopRow = (if q.stop + 3601 + q.padding < 0 then .error .negativeTime
        else .ok (q.uid ++ Bytes.encode 4 (min (q.stop + 3601 + q.padding) 4294967295).toNat)) ∧
      (q.Scannable (settings.metricWidth + 4) ↔
        q.start - 7200 - q.padding < 4294967295 ∧ 0 < q.stop + 3601 + q.padding) := by
  intro q hq
  obtain ⟨hlayout, horder, hpadding, s₁, s₂, hlooked⟩ := formed_of_read hread q hq
  have htime : q.layout.time = 4 := by rw [hlayout]; rfl
  have hall : (Nat.pow 256 q.layout.time : Int) = 4294967296 := by rw [htime]; rfl
  have hfirst : q.scanStart = max 0 (q.start - 7200 - q.padding) := by
    unfold scanStart rowSpan
    omega
  have hlast : q.scanStop = q.stop + 3601 + q.padding := by
    unfold scanStop rowSpan
    omega
  have hstart : q.startRow = (if 4294967296 ≤ q.start - 7200 - q.padding then .error .longTime
      else .ok (q.uid ++ Bytes.encode 4 (q.start - 7200 - q.padding).toNat)) := by
    unfold startRow
    split
    · exact bound_of_long (by omega)
    · rw [bound_of_fits (by omega) (by omega), htime, hfirst]
      congr 3
      omega
  have hstop : q.stopRow = (if q.stop + 3601 + q.padding < 0 then .error .negativeTime
      else .ok (q.uid ++ Bytes.encode 4 (min (q.stop + 3601 + q.padding) 4294967295).toNat)) := by
    unfold stopRow
    rw [hall, hlast]
    split
    · exact bound_of_negative (by omega)
    · rw [bound_of_fits (by omega) (by omega), htime]
      rfl
  refine ⟨hstart, hstop, ?_⟩
  constructor
  · rintro ⟨first, stop, hfirst', hstop', -, -, hbefore⟩
    have hless := (bounds_before_iff hfirst' hstop').mp hbefore
    rw [hall] at hless
    omega
  · rintro ⟨hlow, hhigh⟩
    rw [if_neg (by omega)] at hstart hstop
    refine ⟨_, _, hstart, hstop, ?_, ?_, ?_⟩
    · rw [length_of_bound hstart, hids _ _ _ _ hlooked, htime]
    · rw [length_of_bound hstop, hids _ _ _ _ hlooked, htime]
    · rw [bounds_before_iff hstart hstop, hall]
      omega

/-- A directory in which every name has one unique ID. -/
def uniformDirectory : Directory (Task Unit) where
  name _ _ := pure "load"
  id _ _ := pure [0, 0, 1]
  suggest _ _ := pure ["load"]

def sumQuery (start stop : Int) : Query where
  metric := "load"
  uid := [0, 0, 1]
  start := start
  stop := stop
  aggregator := .sum
  rate := false
  downsample := none
  filters := []
  layout := Settings.standard.layout

theorem uniformDirectory_width (name : String) (s : Unit) (uid : Bytes) (s' : Unit)
    (h : (uniformDirectory.id .metric name).run.run s = (.ok uid, s')) :
    uid.length = Settings.standard.metricWidth := by
  obtain ⟨rfl, -⟩ := Task.pure_eq_ok_iff.mp h
  rfl

theorem eq_ok_of_toOption {ε α : Type} {x : Except ε α} {a : α} (h : x.toOption = some a) :
    x = .ok a := by
  cases x with
  | error f => cases h
  | ok b => exact congrArg Except.ok (Option.some.inj h)

theorem read_sumQuery {first last : String} {start stop : Int}
    (hstart : (Instant.read (.whole 0) first).toOption = some start)
    (hlast : Aggregator.ofWord? last = none)
    (hstop : (Instant.read (.whole 0) last).toOption = some stop) (horder : start ≤ stop) :
    (read uniformDirectory Settings.standard.layout (.whole 0) [first, last, "sum", "load"]).run.run
      () = (.ok [sumQuery start stop], ()) := by
  have hspells : Clause.Spells ⟨.sum, false, none, "load", []⟩ ["sum", "load"] :=
    .intro .no .none (by decide) (by decide) nofun
  exact read_eq_ok_iff.mpr (.between (eq_ok_of_toOption hstart)
    (Aggregator.ofWord?_eq_none_iff.mp hlast) (eq_ok_of_toOption hstop) horder (by decide)
    (.cons (.intro hspells .nil rfl) .nil))

theorem read_scannable_sample :
    (sumQuery 0 100).startRow = .ok [0, 0, 1, 0, 0, 0, 0] ∧
      (sumQuery 0 100).stopRow = .ok [0, 0, 1, 0, 0, 14, 117] ∧ (sumQuery 0 100).Scannable 7 := by
  have hread : (read uniformDirectory Settings.standard.layout (.whole 0)
      ["0", "100", "sum", "load"]).run.run () = (.ok [sumQuery 0 100], ()) :=
    read_sumQuery (by decide +kernel) (by decide) (by decide +kernel) (by decide)
  obtain ⟨hstart, hstop, hscannable⟩ :=
    read_scannable_iff uniformDirectory .standard uniformDirectory_width hread _
      (List.mem_singleton.mpr rfl)
  exact ⟨hstart, hstop, hscannable.mpr (by decide)⟩

/-- A query long after the last time of row keys has no start, one long before the epoch no stop,
and one that starts just after that last time has a range from it up to itself. -/
theorem read_unscannable :
    ((read uniformDirectory Settings.standard.layout (.whole 0)
        ["9999999998", "9999999999", "sum", "load"]).run.run () =
        (.ok [sumQuery 9999999998 9999999999], ()) ∧
      (sumQuery 9999999998 9999999999).startRow = .error .longTime ∧
      (Fault.number .longTime).kind = .overflow) ∧
    ((read uniformDirectory Settings.standard.layout (.whole 0)
        ["1969/12/30", "1969/12/31", "sum", "load"]).run.run () =
        (.ok [sumQuery (-172800) (-86400)], ()) ∧
      (sumQuery (-172800) (-86400)).stopRow = .error .negativeTime ∧
      (Fault.number .negativeTime).kind = .overflow) ∧
    ((read uniformDirectory Settings.standard.layout (.whole 0)
        ["4294974495", "4294974495", "sum", "load"]).run.run () =
        (.ok [sumQuery 4294974495 4294974495], ()) ∧
      (sumQuery 4294974495 4294974495).startRow = .ok [0, 0, 1, 255, 255, 255, 255] ∧
      (sumQuery 4294974495 4294974495).stopRow = .ok [0, 0, 1, 255, 255, 255, 255]) := by
  refine ⟨⟨?_, rfl, rfl⟩, ⟨?_, rfl, rfl⟩, ⟨?_, rfl, rfl⟩⟩
  · exact read_sumQuery (by decide +kernel) (by decide) (by decide +kernel) (by decide)
  · exact read_sumQuery (by decide +kernel) (by decide) (by decide +kernel) (by decide)
  · exact read_sumQuery (by decide +kernel) (by decide) (by decide +kernel) (by decide)

end Query

end RawSeries
