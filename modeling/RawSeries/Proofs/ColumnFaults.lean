import RawSeries.Proofs.CompactedReport
import RawSeries.Proofs.ScanRange

namespace RawSeries

section MapM

variable {ε α β : Type} {f : α → Except ε β} {as : List α}

theorem exists_mem_of_error {e : ε} (h : as.mapM f = .error e) : ∃ a ∈ as, f a = .error e := by
  induction as with
  | nil => cases h
  | cons a as ih =>
      rw [List.mapM_cons, bind_eq_error_iff] at h
      rcases h with hhead | ⟨b, -, htail⟩
      · exact ⟨a, List.mem_cons_self, hhead⟩
      · rcases bind_eq_error_iff.mp htail with hrest | ⟨bs, -, hpure⟩
        · obtain ⟨a', ha', herror⟩ := ih hrest
          exact ⟨a', List.mem_cons_of_mem a ha', herror⟩
        · cases hpure

theorem exists_ok_of_forall_mem (h : ∀ a ∈ as, ∃ b, f a = .ok b) : ∃ bs, as.mapM f = .ok bs := by
  cases hmap : as.mapM f with
  | ok bs => exact ⟨bs, rfl⟩
  | error e =>
      obtain ⟨a, ha, herror⟩ := exists_mem_of_error hmap
      obtain ⟨b, hb⟩ := h a ha
      rw [hb] at herror
      cases herror

theorem exists_error_of_mem {a : α} {e : ε} (ha : a ∈ as) (h : f a = .error e) :
    ∃ e', as.mapM f = .error e' := by
  induction as with
  | nil => cases ha
  | cons x as ih =>
      rw [List.mapM_cons]
      cases hx : f x with
      | error e' => exact ⟨e', rfl⟩
      | ok y =>
          rcases List.mem_cons.mp ha with rfl | ha
          · rw [hx] at h
            cases h
          · obtain ⟨e', hrest⟩ := ih ha
            rw [hrest]
            exact ⟨e', rfl⟩

end MapM

theorem Calendar.exists_dateText {t : Int} (hpos : 0 ≤ t) (hlast : t < (lastSecond + 1) * 1000) :
    ∃ text, dateText t = .ok text := by
  unfold lastSecond at hlast
  have hseconds : ∃ s, seconds? t = some s ∧ 0 ≤ s ∧ s ≤ 253402300799 := by
    unfold seconds?
    by_cases hmillis : isMillis t = true
    · rw [if_pos hmillis, if_pos (by omega)]
      exact ⟨t / 1000, rfl, by omega, by omega⟩
    · rw [if_neg hmillis]
      have hlow : t / 4294967296 % 4294967296 = 0 := by simpa [isMillis] using hmillis
      exact ⟨t, rfl, hpos, by omega⟩
  obtain ⟨s, hs, hfirst, hlate⟩ := hseconds
  have hmoment : moment t = .ok (Moment.ofSeconds s) := by
    unfold moment firstSecond lastSecond
    rw [hs]
    dsimp only
    rw [if_neg (by omega), if_neg (by omega), if_neg (by omega)]
  exact ⟨(Moment.ofSeconds s).text, by rw [dateText, hmoment]; rfl⟩

theorem exists_dateOf {t : Int} (hpos : 0 ≤ t) (hlast : t < 253402300800000) :
    ∃ text, dateOf t = .ok text := by
  obtain ⟨text, htext⟩ := Calendar.exists_dateText hpos hlast
  exact ⟨text, by rw [dateOf, htext]; rfl⟩

namespace Compacted

variable {cell : Cell}

theorem Stored.present (h : Stored cell) :
    ∃ millis flags, cell.inMillis = .ok millis ∧ cell.flags = .ok flags ∧
      cell.offset = .ok (Qualifier.offset cell.qualifier) := by
  cases h with
  | seconds x y value hx hvalue =>
      refine ⟨_, y.toNat % 16, rfl, ?_, rfl⟩
      simp [Cell.flags, Cell.present, Qualifier.flags?, width_cons, hx]
  | millis x y z w value hx hvalue =>
      refine ⟨_, w.toNat % 16, rfl, ?_, rfl⟩
      simp [Cell.flags, Cell.present, Qualifier.flags?, width_cons, hx]

theorem Stored.exists_timestamp (h : Stored cell) {base : Nat} (hbase : base < 4294967296) :
    ∃ t, cell.timestamp base = .ok t ∧ 0 ≤ t ∧ t < 253402300800000 := by
  obtain ⟨millis, flags, hmillis, -, hoffset⟩ := h.present
  have hlast := Qualifier.offset_lt cell.qualifier
  unfold Cell.timestamp
  rw [hoffset, hmillis]
  cases millis with
  | false => exact ⟨_, rfl, by omega, by omega⟩
  | true => exact ⟨_, rfl, by omega, by omega⟩

theorem Stored.exists_rawLine (h : Stored cell) {base : Nat} (hbase : base < 4294967296) :
    ∃ line, cell.rawLine base = .ok line := by
  obtain ⟨millis, flags, -, hflags, hoffset⟩ := h.present
  obtain ⟨t, htime, hpos, hlast⟩ := h.exists_timestamp hbase
  obtain ⟨date, hdate⟩ := exists_dateOf hpos hlast
  have hshown : ∃ n, cell.shownOffset base = .ok n := by
    unfold Cell.shownOffset
    rw [htime, hoffset]
    exact ⟨_, rfl⟩
  have hwhole : ∃ whole, cell.isWhole = .ok whole := by
    unfold Cell.isWhole
    rw [hflags]
    exact ⟨_, rfl⟩
  obtain ⟨n, hn⟩ := hshown
  obtain ⟨whole, hwhole⟩ := hwhole
  unfold Cell.rawLine
  rw [htime, hn, hwhole]
  dsimp only [ofPoint, Except.mapError, bind, Except.bind]
  rw [hdate]
  exact ⟨_, rfl⟩

theorem Stored.importLine_eq_error_iff (h : Stored cell) {base : Nat} (hbase : base < 4294967296)
    (metric tags : String) (f : Fault) :
    cell.importLine metric tags base = .error f ↔
      ∃ flaw, cell.read = .error flaw ∧ f = .point flaw := by
  obtain ⟨t, htime, -, -⟩ := h.exists_timestamp hbase
  unfold Cell.importLine Cell.valueText
  rw [htime]
  cases hread : cell.read with
  | error flaw =>
      constructor
      · rintro ⟨⟩
        exact ⟨flaw, rfl, rfl⟩
      · rintro ⟨_, hflaw, rfl⟩
        cases hflaw
        rfl
  | ok value =>
      constructor
      · rintro ⟨⟩
      · rintro ⟨_, ⟨⟩, _⟩

theorem Stored.kind_of_read (h : Stored cell) {flaw : Point.Flaw} (hread : cell.read = .error flaw) :
    (Fault.point flaw).kind = .illegalData := by
  obtain ⟨-, flags, -, hflags, -⟩ := h.present
  simp only [Cell.read, Cell.isWhole, hflags] at hread
  change (if (!Qualifier.isFloat flags) = true then _ else _) = _ at hread
  split at hread
  · split at hread
    · cases hread
    · cases hread
      rfl
  · split at hread
    · cases hread
    · split at hread
      · cases hread
      · cases hread
        rfl

end Compacted

namespace Note

theorem offset_lt (n : Note) : n.offset < 4194304 := by
  unfold offset
  dsimp only
  split
  · exact Nat.mod_lt _ (by decide)
  · split
    · have hvalue := Bytes.value_take_lt 2 (n.qualifier.drop 1)
      have htwo : Nat.pow 256 2 = 65536 := rfl
      omega
    · decide

theorem exists_rawLine (n : Note) {base : Nat} (hbase : base < 4294967296) :
    ∃ line, n.rawLine base = .ok line := by
  have hoffset := n.offset_lt
  have hdate : ∃ date, dateOf (n.timestamp base) = .ok date := by
    unfold timestamp
    cases n.inMillis with
    | false => exact exists_dateOf (by simp; omega) (by simp; omega)
    | true => exact exists_dateOf (by simp; omega) (by simp; omega)
  obtain ⟨date, hdate⟩ := hdate
  unfold rawLine
  dsimp only
  rw [hdate]
  exact ⟨_, rfl⟩

end Note

namespace Decoded

def cells : Decoded → List Cell
  | .point cell => [cell]
  | .compacted points => points.cells
  | _ => []

/-- A damaged column, of one point or of several. -/
inductive IsBroken : Decoded → Prop
  | point (flaw : Point.Flaw) : IsBroken (.brokenPoint flaw)
  | compaction (flaw : Compacted.Flaw) : IsBroken (.brokenCompaction flaw)

/-- What is known of all that columns decode to. -/
structure Proper (d : Decoded) : Prop where
  stored : ∀ cell ∈ d.cells, Compacted.Stored cell
  flaw : ∀ flaw, d = .brokenPoint flaw → (Fault.point flaw).kind = .illegalData

/-- Why the lines of a column cannot be written in a style. -/
inductive Fails : Style → Decoded → Fault → Prop
  | point {style : Style} (flaw : Point.Flaw) : Fails style (.brokenPoint flaw) (.point flaw)
  | compaction {style : Style} (flaw : Compacted.Flaw) :
      Fails style (.brokenCompaction flaw) (.compaction flaw)
  | value {d : Decoded} {cell : Cell} {flaw : Point.Flaw} (hcell : cell ∈ d.cells)
      (hread : cell.read = .error flaw) : Fails .loadable d (.point flaw)

/-- A fault of a column is one of its data, and tells damaged compacted columns from all others. -/
theorem Fails.kind_eq {style : Style} {d : Decoded} {f : Fault} (h : Fails style d f)
    (hproper : d.Proper) :
    f.isAboutData = true ∧ (f.kind = .malformedColumn ↔ ∃ flaw, d = .brokenCompaction flaw) ∧
      (f.kind = .malformedColumn ∨ f.kind = .illegalData) := by
  cases h with
  | point flaw =>
      have hkind := hproper.flaw flaw rfl
      simp [Fault.isAboutData, hkind]
  | compaction flaw => simp [Fault.isAboutData, Fault.kind]
  | @value _ cell flaw hcell hread =>
      have hkind := (hproper.stored cell hcell).kind_of_read hread
      have hintact : ∀ flaw, d ≠ .brokenCompaction flaw := by
        rintro flaw rfl
        cases hcell
      simp [Fault.isAboutData, hkind, hintact]

end Decoded

namespace Column

theorem proper_of_decode? {c : Column} {d : Decoded} (h : c.decode? = some d) : d.Proper := by
  have hreads : c.Reads (some d) := reads_of_decode? h
  cases hreads with
  | note => exact ⟨nofun, nofun⟩
  | foreign => exact ⟨nofun, nofun⟩
  | point value hq hfits =>
      refine ⟨?_, nofun⟩
      intro cell hcell
      obtain rfl := List.mem_singleton.mp hcell
      exact stored_of_point h
  | brokenPoint value hq hfits =>
      refine ⟨nofun, ?_⟩
      rintro _ ⟨⟩
      unfold Point.misfit
      split
      · rfl
      · rfl
  | compacted p hvalid hq => exact ⟨hvalid.stored, nofun⟩
  | brokenCompaction c flaw => exact ⟨nofun, nofun⟩

variable {c : Column} {d : Decoded} {base : Nat}

theorem exists_rawLines (hproper : d.Proper) (hintact : ¬d.IsBroken) (hbase : base < 4294967296)
    (c : Column) : ∃ lines, rawLines base c d = .ok lines := by
  cases d with
  | note note =>
      obtain ⟨line, hline⟩ := note.exists_rawLine hbase
      exact ⟨[line], by simp only [rawLines, hline]; rfl⟩
  | foreign => exact ⟨_, rfl⟩
  | point cell =>
      obtain ⟨line, hline⟩ := (hproper.stored cell List.mem_cons_self).exists_rawLine hbase
      exact ⟨[line], by simp only [rawLines, hline]; rfl⟩
  | compacted points =>
      have hcells : ∀ cell ∈ points.cells, ∃ line, cell.rawLine base = .ok line :=
        fun cell hcell => (hproper.stored cell hcell).exists_rawLine hbase
      obtain ⟨lines, hlines⟩ := exists_ok_of_forall_mem hcells
      exact ⟨_, by simp only [rawLines, hlines]; rfl⟩
  | brokenPoint flaw => exact absurd (.point flaw) hintact
  | brokenCompaction flaw => exact absurd (.compaction flaw) hintact

theorem loadableLines_eq (hintact : ¬d.IsBroken) (metric tags : String) (base : Int) :
    loadableLines metric tags base d = d.cells.mapM fun cell => cell.importLine metric tags base := by
  cases d with
  | note note => rfl
  | foreign => rfl
  | point cell => rfl
  | compacted points => rfl
  | brokenPoint flaw => exact absurd (.point flaw) hintact
  | brokenCompaction flaw => exact absurd (.compaction flaw) hintact

theorem fails_of_lines (hproper : d.Proper) (hbase : base < 4294967296) {style : Style}
    {metric tags : String} {f : Fault} (h : lines style metric tags base c d = .error f) :
    d.Fails style f := by
  by_cases hbroken : d.IsBroken
  · cases hbroken with
    | point flaw =>
        cases style <;> cases h <;> exact .point flaw
    | compaction flaw =>
        cases style <;> cases h <;> exact .compaction flaw
  · cases style with
    | raw =>
        obtain ⟨lines, hlines⟩ := exists_rawLines hproper hbroken hbase c
        have hraw : rawLines base c d = .error f := h
        rw [hlines] at hraw
        cases hraw
    | loadable =>
        have hcells : d.cells.mapM (fun cell => cell.importLine metric tags base) = .error f := by
          rw [← loadableLines_eq hbroken]
          exact h
        obtain ⟨cell, hcell, hline⟩ := exists_mem_of_error hcells
        obtain ⟨flaw, hread, rfl⟩ :=
          ((hproper.stored cell hcell).importLine_eq_error_iff hbase metric tags f).mp hline
        exact .value hcell hread

theorem exists_error_of_broken (h : d.IsBroken) (style : Style) (metric tags : String) (base : Int)
    (c : Column) : ∃ f, lines style metric tags base c d = .error f := by
  cases h with
  | point flaw => cases style <;> exact ⟨.point flaw, rfl⟩
  | compaction flaw => cases style <;> exact ⟨.compaction flaw, rfl⟩

theorem exists_error_of_value (hproper : d.Proper) (hbase : base < 4294967296) {cell : Cell}
    {flaw : Point.Flaw} (hcell : cell ∈ d.cells) (hread : cell.read = .error flaw)
    (metric tags : String) (c : Column) :
    ∃ f, lines .loadable metric tags base c d = .error f := by
  have hintact : ¬d.IsBroken := by
    rintro (flaw | flaw) <;> cases hcell
  have hline : cell.importLine metric tags base = .error (.point flaw) :=
    ((hproper.stored cell hcell).importLine_eq_error_iff hbase metric tags _).mpr ⟨flaw, hread, rfl⟩
  have hlines : lines .loadable metric tags base c d =
      d.cells.mapM fun cell => cell.importLine metric tags base :=
    loadableLines_eq hintact metric tags base
  rw [hlines]
  exact exists_error_of_mem hcell hline

theorem report_eq_error_iff (h : c.decode? = some d) (hbase : base < 4294967296) (style : Style)
    (key : Bytes) (metric tags : String) (f : Fault) :
    c.report style key base metric tags = .error f ↔
      ∃ cause, lines style metric tags base c d = .error cause ∧ f = .inColumn key c cause := by
  have hproper := proper_of_decode? h
  rw [report_eq h]
  cases hlines : lines style metric tags base c d with
  | ok texts =>
      constructor
      · rintro ⟨⟩
      · rintro ⟨_, ⟨⟩, _⟩
  | error cause =>
      have hdata : cause.isAboutData = true :=
        ((fails_of_lines hproper hbase hlines).kind_eq hproper).1
      have hlocate : locate key c (.error cause : Except Fault (List String)) =
          .error (.inColumn key c cause) := by
        rw [locate, if_pos hdata]
      rw [hlocate]
      constructor
      · rintro ⟨⟩
        exact ⟨cause, rfl, rfl⟩
      · rintro ⟨_, ⟨⟩, rfl⟩
        rfl

end Column

namespace Fault

theorem point_message (key : Bytes) (c : Column) (flaw : Point.Flaw) :
    (inColumn key c (.point flaw)).message =
      "Unable to parse row: " ++ whereColumn key c ++ ": " ++ flaw.message :=
  rfl

theorem compaction_message (key : Bytes) (c : Column) (flaw : Compacted.Flaw) :
    (inColumn key c (.compaction flaw)).message =
      "Malformed compacted column in " ++ whereColumn key c ++ ": " ++ flaw.message :=
  rfl

theorem infix_between (start place rest : String) :
    place.toList <:+: (start ++ place ++ ": " ++ rest).toList := by
  refine ⟨start.toList, (": " ++ rest).toList, ?_⟩
  simp only [String.toList_append, List.append_assoc]

theorem key_infix (key : Bytes) (c : Column) :
    (Bytes.signedListing key).toList <:+: (whereColumn key c).toList := by
  refine ⟨"row key ".toList, (", column " ++ Bytes.signedListing c.qualifier ++ "=" ++
    Bytes.signedListing c.value).toList, ?_⟩
  simp only [whereColumn, wherePlace, String.toList_append, List.append_assoc]

theorem column_infix (key : Bytes) (c : Column) :
    (Bytes.signedListing c.qualifier ++ "=" ++ Bytes.signedListing c.value).toList <:+:
      (whereColumn key c).toList := by
  refine ⟨("row key " ++ Bytes.signedListing key ++ ", column ").toList, [], ?_⟩
  simp only [whereColumn, wherePlace, String.toList_append, List.append_assoc, List.append_nil]

end Fault

theorem Decoded.Fails.infix_message {style : Style} {d : Decoded} {cause : Fault}
    (h : d.Fails style cause) (key : Bytes) (c : Column) :
    (Fault.whereColumn key c).toList <:+: (Fault.inColumn key c cause).message.toList := by
  cases h with
  | point flaw =>
      rw [Fault.point_message]
      exact Fault.infix_between _ _ _
  | compaction flaw =>
      rw [Fault.compaction_message]
      exact Fault.infix_between _ _ _
  | value hcell hread =>
      rw [Fault.point_message]
      exact Fault.infix_between _ _ _

namespace Column

/-- In raw style the text of a column fails exactly when the column is damaged, and in loadable style
exactly when it is damaged or the value of one of its points cannot be read, for every base time of
32 bits. The fault tells damaged compacted columns from all else, and its message names the key of
the row and the qualifier and the value of the column. -/
theorem report_fails_iff {c : Column} {d : Decoded} (h : c.decode? = some d) {base : Nat}
    (hbase : base < 4294967296) (key : Bytes) (metric tags : String) :
    ((∃ f, c.report .raw key base metric tags = .error f) ↔ d.IsBroken) ∧
      ((∃ f, c.report .loadable key base metric tags = .error f) ↔
        d.IsBroken ∨ ∃ cell ∈ d.cells, ∃ flaw, cell.read = .error flaw) ∧
      ∀ style f, c.report style key base metric tags = .error f →
        (f.kind = .malformedColumn ↔ ∃ flaw, d = .brokenCompaction flaw) ∧
        (f.kind = .malformedColumn ∨ f.kind = .illegalData) ∧
        (Bytes.signedListing key).toList <:+: f.message.toList ∧
        (Bytes.signedListing c.qualifier ++ "=" ++ Bytes.signedListing c.value).toList <:+:
          f.message.toList := by
  have hproper := proper_of_decode? h
  have hfails : ∀ style, (∃ f, c.report style key base metric tags = .error f) ↔
      ∃ cause, lines style metric tags base c d = .error cause := by
    intro style
    constructor
    · rintro ⟨f, hf⟩
      obtain ⟨cause, hlines, -⟩ := (report_eq_error_iff h hbase style key metric tags f).mp hf
      exact ⟨cause, hlines⟩
    · rintro ⟨cause, hlines⟩
      exact ⟨_, (report_eq_error_iff h hbase style key metric tags _).mpr ⟨cause, hlines, rfl⟩⟩
  refine ⟨?_, ?_, ?_⟩
  · rw [hfails]
    constructor
    · rintro ⟨cause, hlines⟩
      cases fails_of_lines hproper hbase hlines with
      | point flaw => exact .point flaw
      | compaction flaw => exact .compaction flaw
    · intro hbroken
      exact exists_error_of_broken hbroken .raw metric tags base c
  · rw [hfails]
    constructor
    · rintro ⟨cause, hlines⟩
      cases fails_of_lines hproper hbase hlines with
      | point flaw => exact .inl (.point flaw)
      | compaction flaw => exact .inl (.compaction flaw)
      | value hcell hread => exact .inr ⟨_, hcell, _, hread⟩
    · rintro (hbroken | ⟨cell, hcell, flaw, hread⟩)
      · exact exists_error_of_broken hbroken .loadable metric tags base c
      · exact exists_error_of_value hproper hbase hcell hread metric tags c
  · intro style f hf
    obtain ⟨cause, hlines, rfl⟩ := (report_eq_error_iff h hbase style key metric tags f).mp hf
    have hcause := fails_of_lines hproper hbase hlines
    obtain ⟨-, hcompaction, hkind⟩ := hcause.kind_eq hproper
    have hplace := hcause.infix_message key c
    exact ⟨hcompaction, hkind, (Fault.key_infix key c).trans hplace,
      (Fault.column_infix key c).trans hplace⟩

/-- A whole number of one byte and one of three, which no reader takes, with a byte of metadata. -/
def unreadableColumn : Column :=
  ⟨[0, 0, 240, 0, 1, 2], [7, 1, 2, 3, 1]⟩

/-- The last base time of 32 bits, with a point in milliseconds. -/
theorem report_fails_iff_sample :
    unreadableColumn.decode? =
        some (.compacted ⟨[⟨[0, 0], [7]⟩, ⟨[240, 0, 1, 2], [1, 2, 3]⟩], [1]⟩) ∧
      (4294967295 : Nat) < 4294967296 ∧
      (¬∃ f, unreadableColumn.report .raw [9] (4294967295 : Nat) "load" "" = .error f) ∧
      ∃ f, unreadableColumn.report .loadable [9] (4294967295 : Nat) "load" "" = .error f := by
  have hdecode : unreadableColumn.decode? =
      some (.compacted ⟨[⟨[0, 0], [7]⟩, ⟨[240, 0, 1, 2], [1, 2, 3]⟩], [1]⟩) := by
    decide +kernel
  have hbase : (4294967295 : Nat) < 4294967296 := by decide
  obtain ⟨hraw, hloadable, -⟩ := report_fails_iff hdecode hbase [9] "load" ""
  refine ⟨hdecode, hbase, fun hfails => ?_, hloadable.mpr (.inr ?_)⟩
  · cases hraw.mp hfails
  · exact ⟨⟨[240, 0, 1, 2], [1, 2, 3]⟩, by decide, .integerLength [1, 2, 3], rfl⟩

end Column

end RawSeries
