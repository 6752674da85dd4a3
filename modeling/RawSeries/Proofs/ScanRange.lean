import RawSeries.Column.Decoded
import RawSeries.Proofs.BigEndian
import RawSeries.Proofs.ByteOrder
import RawSeries.Query.Basic
import RawSeries.Row.Basic

/-!
The rows that a query selects by the bytes of their keys are those that it wants by what the keys
say, and the range that is scanned leaves out no row with a point in the range of the query.
-/

namespace RawSeries

/-- Of the tags with a tag key, the last one has the value. -/
def Key.Carries (k : Key) (tagKey value : Bytes) : Prop :=
  ∃ before after, k.tags = before ++ (tagKey, value) :: after ∧ ∀ tag ∈ after, tag.1 ≠ tagKey

/-- A key has the tag of a filter, with a value that is asked for. -/
def TagFilter.Admits (f : TagFilter) (k : Key) : Prop :=
  ∃ value, k.Carries f.uid value ∧ ∀ values, f.values = some values → value ∈ values

/-- What a query asks of the key of a row. -/
structure Query.Wants (q : Query) (k : Key) : Prop where
  metric : k.metric = q.uid
  start : q.scanStart ≤ k.time
  stop : (k.time : Int) < min q.scanStop (Nat.pow 256 q.layout.time - 1)
  tags : ∀ f ∈ q.filters, f.Admits k

/-- A column has a cell, alone or among others. -/
def Column.Holds (c : Column) (cell : Cell) : Prop :=
  c.decode? = some (.point cell) ∨
    ∃ points, c.decode? = some (.compacted points) ∧ cell ∈ points.cells

/-- The point of a cell lies in the range of a query, the last second of which counts whole. -/
def Query.InRange (q : Query) (base : Nat) (cell : Cell) : Prop :=
  ∃ t, cell.timestamp base = .ok t ∧
    ((cell.inMillis = .ok true ∧ q.start * 1000 ≤ t ∧ t < (q.stop + 1) * 1000) ∨
      (cell.inMillis = .ok false ∧ q.start ≤ t ∧ t ≤ q.stop))

theorem Key.split_eq_ok {l : Layout} {key : Bytes} {k : Key} (h : Key.split l key = .ok k) :
    l.head ≤ key.length ∧ l.tag ≠ 0 ∧
      k = ⟨Key.metricOf l key, Key.timeOf l key, Key.tagsOf l key⟩ := by
  unfold Key.split at h
  split at h
  · cases h
  · split at h
    · cases h
    · dsimp only at h
      split at h
      · cases h
      · rename_i hlength htag _
        cases h
        exact ⟨by omega, htag, rfl⟩

theorem lookup_reverse_eq_some_iff {pairs : List (Bytes × Bytes)} {a b : Bytes} :
    pairs.reverse.lookup a = some b ↔
      ∃ before after, pairs = before ++ (a, b) :: after ∧ ∀ pair ∈ after, pair.1 ≠ a := by
  rw [List.lookup_eq_some_iff]
  constructor
  · rintro ⟨later, earlier, hpairs, hlater⟩
    refine ⟨earlier.reverse, later.reverse, ?_, ?_⟩
    · rw [← List.reverse_reverse pairs, hpairs]
      simp
    · intro pair hpair heq
      have hne := hlater pair (List.mem_reverse.mp hpair)
      simp [heq] at hne
  · rintro ⟨before, after, rfl, hafter⟩
    refine ⟨after.reverse, before.reverse, by simp, ?_⟩
    intro pair hpair
    have hne := hafter pair (List.mem_reverse.mp hpair)
    simpa using fun heq : a = pair.1 => hne heq.symm

theorem TagFilter.admits_iff (f : TagFilter) (k : Key) :
    f.Admits k ↔ ∃ value, k.tags.reverse.lookup f.uid = some value ∧ f.accepts value = true := by
  have haccepts : ∀ value, (∀ values, f.values = some values → value ∈ values) ↔
      f.accepts value = true := by
    intro value
    unfold TagFilter.accepts
    cases f.values with
    | none => simp
    | some values => simp
  constructor
  · rintro ⟨value, hcarries, hvalue⟩
    exact ⟨value, lookup_reverse_eq_some_iff.mpr hcarries, (haccepts value).mp hvalue⟩
  · rintro ⟨value, hlookup, hvalue⟩
    exact ⟨value, lookup_reverse_eq_some_iff.mp hlookup, (haccepts value).mpr hvalue⟩

namespace Query

theorem accepts_iff {q : Query} {key : Bytes} {k : Key}
    (hmetric : k.metric = Key.metricOf q.layout key) (htags : k.tags = Key.tagsOf q.layout key) :
    q.accepts key = true ↔ k.metric = q.uid ∧ ∀ f ∈ q.filters, f.Admits k := by
  rw [accepts, Bool.and_eq_true, beq_iff_eq, ← hmetric, List.all_eq_true]
  apply and_congr_right
  intro _
  constructor
  · intro h f hf
    have hpasses := h f hf
    rw [TagFilter.admits_iff, htags]
    cases hvalue : q.tagValue? key f.uid with
    | none =>
        rw [hvalue] at hpasses
        cases hpasses
    | some value =>
        rw [hvalue] at hpasses
        exact ⟨value, hvalue, hpasses⟩
  · intro h f hf
    obtain ⟨value, hvalue, haccepts⟩ := (TagFilter.admits_iff f k).mp (h f hf)
    rw [htags] at hvalue
    have htag : q.tagValue? key f.uid = some value := hvalue
    rw [htag]
    exact haccepts

theorem bound_of_fits {q : Query} {time : Int} (hpos : 0 ≤ time)
    (hfits : time < Nat.pow 256 q.layout.time) :
    q.bound time = .ok (q.uid ++ Bytes.encode q.layout.time time.toNat) := by
  rw [bound, Bytes.encode?, if_pos ⟨hpos, hfits⟩]

theorem bound_eq_ok {q : Query} {time : Int} {b : Bytes} (h : q.bound time = .ok b) :
    0 ≤ time ∧ time < Nat.pow 256 q.layout.time ∧
      b = q.uid ++ Bytes.encode q.layout.time time.toNat := by
  unfold bound Bytes.encode? at h
  by_cases hfits : 0 ≤ time ∧ time < Nat.pow 256 q.layout.time
  · rw [if_pos hfits] at h
    cases h
    exact ⟨hfits.1, hfits.2, rfl⟩
  · rw [if_neg hfits] at h
    cases h

theorem before_bound_iff {q : Query} {time : Int} {b key : Bytes} (hbound : q.bound time = .ok b)
    (hlength : q.layout.head ≤ key.length) (hmetric : Key.metricOf q.layout key = q.uid) :
    Bytes.before key b = true ↔ (Key.timeOf q.layout key : Int) < time := by
  obtain ⟨hpos, hfits, rfl⟩ := bound_eq_ok hbound
  let moment := (key.drop q.layout.metric).take q.layout.time
  let tags := (key.drop q.layout.metric).drop q.layout.time
  have hkey : key = q.uid ++ (moment ++ tags) := by
    rw [← hmetric, Key.metricOf, List.take_append_drop, List.take_append_drop]
  have hmoment : moment.length = q.layout.time := by
    unfold Layout.head at hlength
    rw [List.length_take, List.length_drop]
    omega
  have hsame : moment.length = (Bytes.encode q.layout.time time.toNat).length := by
    rw [hmoment, Bytes.length_encode]
  have hvalue : Bytes.value (Bytes.encode q.layout.time time.toNat) = time.toNat := by
    rw [Bytes.value_encode, Nat.mod_eq_of_lt (by omega)]
  have hmetrics : ¬q.uid < q.uid := List.lt_irrefl q.uid
  have hnothing : ¬tags < [] := List.not_lt_nil tags
  calc Bytes.before key (q.uid ++ Bytes.encode q.layout.time time.toNat) = true
    _ ↔ q.uid ++ (moment ++ tags) < q.uid ++ (Bytes.encode q.layout.time time.toNat ++ []) := by
        rw [Bytes.before_iff, ← hkey, List.append_nil]
    _ ↔ moment ++ tags < Bytes.encode q.layout.time time.toNat ++ [] := by
        rw [Bytes.append_lt_append_iff rfl]
        simp [hmetrics]
    _ ↔ moment < Bytes.encode q.layout.time time.toNat := by
        rw [Bytes.append_lt_append_iff hsame]
        simp [hnothing]
    _ ↔ Bytes.value moment < time.toNat := by rw [Bytes.lt_iff_value_lt hsame, hvalue]
    _ ↔ (Key.timeOf q.layout key : Int) < time := by
        have htime : Key.timeOf q.layout key = Bytes.value moment := rfl
        omega

theorem selects_eq_ok {q : Query} (first stop : Bytes) {key : Bytes} (htag : q.layout.tag ≠ 0) :
    q.selects first stop key =
      .ok (!Bytes.before key first && Bytes.before key stop && q.accepts key) := by
  have hpasses : q.passes key = .ok (q.accepts key) := by
    rw [passes, if_neg]
    rintro ⟨hzero, -⟩
    exact htag hzero
  unfold selects
  cases hfirst : Bytes.before key first with
  | true => rfl
  | false =>
      cases hstop : Bytes.before key stop with
      | true => exact hpasses
      | false => rfl

theorem selected_iff_wants {q : Query} {first stop key : Bytes} {k : Key}
    (hfirst : q.startRow = .ok first) (hstop : q.stopRow = .ok stop)
    (hsplit : Key.split q.layout key = .ok k) :
    (!Bytes.before key first && Bytes.before key stop && q.accepts key) = true ↔ q.Wants k := by
  obtain ⟨hlength, -, hk⟩ := Key.split_eq_ok hsplit
  have hmetric : k.metric = Key.metricOf q.layout key := by rw [hk]
  have htime : k.time = Key.timeOf q.layout key := by rw [hk]
  have htags : k.tags = Key.tagsOf q.layout key := by rw [hk]
  simp only [Bool.and_eq_true, Bool.not_eq_true', accepts_iff hmetric htags]
  constructor
  · rintro ⟨⟨hafter, hbefore⟩, huid, hadmits⟩
    have hown : Key.metricOf q.layout key = q.uid := hmetric ▸ huid
    rw [← Bool.not_eq_true, before_bound_iff hfirst hlength hown, ← htime] at hafter
    rw [before_bound_iff hstop hlength hown, ← htime] at hbefore
    exact ⟨huid, Int.not_lt.mp hafter, hbefore, hadmits⟩
  · rintro ⟨huid, hstart, hend, hadmits⟩
    have hown : Key.metricOf q.layout key = q.uid := hmetric ▸ huid
    refine ⟨⟨?_, ?_⟩, huid, hadmits⟩
    · rw [← Bool.not_eq_true, before_bound_iff hfirst hlength hown, ← htime]
      exact Int.not_lt.mpr hstart
    · rw [before_bound_iff hstop hlength hown, ← htime]
      exact hend

end Query

theorem Qualifier.offset_lt (q : Bytes) : offset q < 4194304 := by
  unfold offset
  split
  · exact Nat.mod_lt _ (by decide)
  · have hvalue := Bytes.value_take_lt 2 q
    have htwo : Nat.pow 256 2 = 65536 := rfl
    omega

theorem Cell.timestamp_eq_ok {c : Cell} {base t : Int} (h : c.timestamp base = .ok t) :
    (c.inMillis = .ok true ∧ t = base * 1000 + Qualifier.offset c.qualifier) ∨
      (c.inMillis = .ok false ∧ t = base + (Qualifier.offset c.qualifier / 1000 : Nat)) := by
  unfold Cell.timestamp Cell.offset Qualifier.offset? at h
  unfold Cell.inMillis at h ⊢
  cases hq : c.qualifier with
  | nil =>
      rw [hq] at h
      cases h
  | cons x rest =>
      rw [hq] at h
      cases hmillis : Qualifier.marksMillis x with
      | true =>
          simp only [Qualifier.millis?, List.head?_cons, Option.map_some, hmillis] at h ⊢
          cases h
          exact .inl ⟨rfl, rfl⟩
      | false =>
          simp only [Qualifier.millis?, List.head?_cons, Option.map_some, hmillis] at h ⊢
          cases h
          exact .inr ⟨rfl, rfl⟩

/-- The longest offset, in milliseconds, is a little less than 4195 seconds. -/
theorem Query.InRange.base_bounds {q : Query} {base : Nat} {cell : Cell}
    (h : q.InRange base cell) : q.start - 4194 ≤ base ∧ (base : Int) ≤ q.stop := by
  obtain ⟨t, htime, hrange⟩ := h
  have hoffset := Qualifier.offset_lt cell.qualifier
  rcases Cell.timestamp_eq_ok htime with ⟨hmillis, rfl⟩ | ⟨hseconds, rfl⟩
  · rcases hrange with ⟨-, hstart, hstop⟩ | ⟨hother, -⟩
    · omega
    · rw [hmillis] at hother
      cases hother
  · rcases hrange with ⟨hother, -⟩ | ⟨-, hstart, hstop⟩
    · rw [hseconds] at hother
      cases hother
    · omega

/-- A scan takes exactly the keys that its query wants. The range is wide enough for every row with
a point in it, unless a downsampling interval below none makes it narrower by more than the two
hours before the range exceed the longest offset. -/
theorem Query.selects_wanted (q : Query) {first stop key : Bytes} {k : Key}
    (hfirst : q.startRow = .ok first) (hstop : q.stopRow = .ok stop)
    (hsplit : Key.split q.layout key = .ok k) :
    (∃ taken, q.selects first stop key = .ok taken ∧ (taken = true ↔ q.Wants k)) ∧
      (-3006 ≤ q.padding → ∀ row : Row, row.key = key → k.metric = q.uid →
        (k.time : Int) < Nat.pow 256 q.layout.time - 1 → (∀ f ∈ q.filters, f.Admits k) →
        (∃ c ∈ row.columns, ∃ cell, c.Holds cell ∧ q.InRange k.time cell) →
        q.selects first stop row.key = .ok true) := by
  obtain ⟨-, htag, -⟩ := Key.split_eq_ok hsplit
  have hwants := selected_iff_wants hfirst hstop hsplit
  constructor
  · exact ⟨_, selects_eq_ok first stop htag, hwants⟩
  · rintro hpadding row rfl hmetric htime htags ⟨-, -, cell, -, hrange⟩
    obtain ⟨hstart, hend⟩ := hrange.base_bounds
    rw [selects_eq_ok first stop htag, hwants.mpr]
    constructor
    case metric => exact hmetric
    case start =>
        unfold scanStart rowSpan
        omega
    case stop =>
        unfold scanStop rowSpan
        omega
    case tags => exact htags

/-- Points from 10000 to 20000 seconds with any host. -/
def sampleQuery (interval : Int) : Query where
  metric := "load"
  uid := [0, 0, 1]
  start := 10000
  stop := 20000
  aggregator := .sum
  rate := false
  downsample := some ⟨interval, .avg⟩
  filters := [⟨"host", [0, 0, 1], none⟩]
  layout := .standard

def sampleKey : Key :=
  ⟨[0, 0, 1], 5806, [([0, 0, 1], [0, 0, 2])]⟩

/-- A row at 5806 seconds with a point at the longest offset. -/
def sampleRow : Row :=
  ⟨[0, 0, 1, 0, 0, 22, 174, 0, 0, 1, 0, 0, 2], [⟨[255, 255, 255, 192], [7]⟩]⟩

theorem sampleRow_inRange (interval : Int) :
    ∃ c ∈ sampleRow.columns, ∃ cell, c.Holds cell ∧ (sampleQuery interval).InRange 5806 cell := by
  refine ⟨⟨[255, 255, 255, 192], [7]⟩, List.mem_singleton.mpr rfl,
    ⟨[255, 255, 255, 192], [7]⟩, .inl (by decide), 10000303, rfl, .inl ⟨rfl, ?_, ?_⟩⟩
  · change (10000 : Int) * 1000 ≤ 10000303
    decide
  · change (10000303 : Int) < (20000 + 1) * 1000
    decide

theorem sampleKey_admitted (interval : Int) :
    ∀ f ∈ (sampleQuery interval).filters, f.Admits sampleKey := by
  intro f hf
  obtain rfl := List.mem_singleton.mp hf
  exact ⟨[0, 0, 2], ⟨[], [], rfl, fun _ h => nomatch h⟩, fun _ h => nomatch h⟩

theorem selects_wanted_sample :
    (sampleQuery (-3006)).startRow = .ok [0, 0, 1, 0, 0, 22, 174] ∧
      (sampleQuery (-3006)).stopRow = .ok [0, 0, 1, 0, 0, 80, 115] ∧
      Key.split .standard sampleRow.key = .ok sampleKey ∧
      (sampleQuery (-3006)).selects [0, 0, 1, 0, 0, 22, 174] [0, 0, 1, 0, 0, 80, 115]
        sampleRow.key = .ok true := by
  have hfirst : (sampleQuery (-3006)).startRow = .ok [0, 0, 1, 0, 0, 22, 174] := rfl
  have hstop : (sampleQuery (-3006)).stopRow = .ok [0, 0, 1, 0, 0, 80, 115] := rfl
  have hsplit : Key.split .standard sampleRow.key = .ok sampleKey := by cbv
  obtain ⟨-, hwide⟩ := Query.selects_wanted (sampleQuery (-3006)) hfirst hstop hsplit
  exact ⟨hfirst, hstop, hsplit, hwide (by decide) sampleRow rfl rfl (by decide)
    (sampleKey_admitted (-3006)) (sampleRow_inRange (-3006))⟩

/-- One second less, and a row with a point in the range is left out. -/
theorem selects_misses_point :
    (sampleQuery (-3007)).startRow = .ok [0, 0, 1, 0, 0, 22, 175] ∧
      (sampleQuery (-3007)).stopRow = .ok [0, 0, 1, 0, 0, 80, 114] ∧
      Key.split .standard sampleRow.key = .ok sampleKey ∧
      sampleKey.metric = (sampleQuery (-3007)).uid ∧
      (sampleKey.time : Int) < Nat.pow 256 Layout.standard.time - 1 ∧
      (∀ f ∈ (sampleQuery (-3007)).filters, f.Admits sampleKey) ∧
      (∃ c ∈ sampleRow.columns, ∃ cell,
        c.Holds cell ∧ (sampleQuery (-3007)).InRange sampleKey.time cell) ∧
      (sampleQuery (-3007)).selects [0, 0, 1, 0, 0, 22, 175] [0, 0, 1, 0, 0, 80, 114]
        sampleRow.key = .ok false := by
  exact ⟨rfl, rfl, by cbv, rfl, by decide, sampleKey_admitted (-3007),
    sampleRow_inRange (-3007), by cbv⟩

end RawSeries
