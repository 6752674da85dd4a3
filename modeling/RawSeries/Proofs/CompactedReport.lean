import RawSeries.Directory.Table
import RawSeries.Proofs.ColumnShapes
import RawSeries.Proofs.TaskRuns
import RawSeries.Row.Report

namespace RawSeries

section SameKind

variable {α β : Type}

/-- Two outcomes are equal, or faults of one kind. -/
def SameKind (x y : Except Fault α) : Prop :=
  x.mapError Fault.kind = y.mapError Fault.kind

theorem SameKind.refl (x : Except Fault α) : SameKind x x :=
  Eq.refl (x.mapError Fault.kind)

theorem SameKind.symm {x y : Except Fault α} (h : SameKind x y) : SameKind y x :=
  Eq.symm h

theorem SameKind.trans {x y z : Except Fault α} (h : SameKind x y) (h' : SameKind y z) :
    SameKind x z :=
  Eq.trans h h'

theorem SameKind.cases {x y : Except Fault α} (h : SameKind x y) :
    (∃ a, x = .ok a ∧ y = .ok a) ∨
      ∃ f f', x = .error f ∧ y = .error f' ∧ f.kind = f'.kind := by
  cases x with
  | error f =>
      cases y with
      | error f' => exact .inr ⟨f, f', rfl, rfl, Except.error.inj h⟩
      | ok a => cases h
  | ok a =>
      cases y with
      | error f => cases h
      | ok a' => exact .inl ⟨a, rfl, congrArg Except.ok (Except.ok.inj h).symm⟩

theorem SameKind.toOption_eq {x y : Except Fault α} (h : SameKind x y) :
    x.toOption = y.toOption := by
  rcases h.cases with ⟨a, rfl, rfl⟩ | ⟨f, f', rfl, rfl, -⟩
  · rfl
  · rfl

theorem SameKind.bind {x y : Except Fault α} {next next' : α → Except Fault β} (h : SameKind x y)
    (hnext : ∀ a, y = .ok a → SameKind (next a) (next' a)) :
    SameKind (x >>= next) (y >>= next') := by
  rcases h.cases with ⟨a, rfl, rfl⟩ | ⟨f, f', rfl, rfl, hkind⟩
  · exact hnext a rfl
  · exact congrArg Except.error hkind

theorem SameKind.map {x y : Except Fault α} (h : SameKind x y) (g : α → β) :
    SameKind (x.map g) (y.map g) := by
  rcases h.cases with ⟨a, rfl, rfl⟩ | ⟨f, f', rfl, rfl, hkind⟩
  · exact .refl _
  · exact congrArg Except.error hkind

end SameKind

theorem Qualifier.Cropped.length {q : Bytes} (h : Cropped q) : q.length = 2 := by
  cases h
  rfl

namespace Compacted

theorem Stored.length_cases {c : Cell} (h : Stored c) :
    c.qualifier.length = 2 ∨ c.qualifier.length = 4 := by
  cases h with
  | seconds => exact .inl rfl
  | millis => exact .inr rfl

theorem length_flatMap_qualifier {cells : List Cell} (h : ∀ c ∈ cells, Stored c) :
    (cells.flatMap Cell.qualifier).length % 2 = 0 ∧
      2 * cells.length ≤ (cells.flatMap Cell.qualifier).length := by
  induction cells with
  | nil => simp
  | cons c cells ih =>
      obtain ⟨hc, hcells⟩ := List.forall_mem_cons.mp h
      obtain ⟨heven, hlong⟩ := ih hcells
      have hlength := hc.length_cases
      simp only [List.flatMap_cons, List.length_append, List.length_cons]
      omega

/-- The qualifiers of several points together are not taken for the qualifier of one. -/
theorem joined_qualifiers {cells : List Cell} (h : ∀ c ∈ cells, Stored c)
    (hmany : 2 ≤ cells.length) : Qualifier.Joined (cells.flatMap Cell.qualifier) := by
  obtain ⟨heven, hlong⟩ := length_flatMap_qualifier h
  refine ⟨heven, ?_, ?_⟩
  · intro flags hsingle
    rcases hsingle.shape.2 with htwo | ⟨hfour, hmillis⟩
    · omega
    · obtain ⟨c, cells, rfl⟩ := List.exists_cons_of_length_pos (by omega : 0 < cells.length)
      obtain ⟨hc, hcells⟩ := List.forall_mem_cons.mp h
      have hwidth := hc.width_append (cells.flatMap Cell.qualifier)
      rw [← List.flatMap_cons, Qualifier.width, if_pos hmillis] at hwidth
      have hrest := (length_flatMap_qualifier hcells).2
      simp only [List.flatMap_cons, List.length_append, List.length_cons] at hfour hmany
      omega
  · intro hcropped
    have hlength := hcropped.length
    omega

theorem decode?_join {p : Compacted} (hvalid : p.Valid) (hmany : 2 ≤ p.cells.length) :
    p.join.decode? = some (.compacted p) := by
  have hjoined : Qualifier.Joined p.join.qualifier := joined_qualifiers hvalid.stored hmany
  rw [Column.decode?_of_joined hjoined, (split_eq_ok_iff p.join p).mpr ⟨hvalid, rfl⟩]

end Compacted

namespace Column

theorem stored_of_point {c : Column} {cell : Cell} (h : c.decode? = some (.point cell)) :
    Compacted.Stored cell := by
  obtain ⟨r, hreads⟩ := exists_reads c
  rw [hreads.decode?_eq] at h
  subst h
  cases hreads with
  | point value hq hfits =>
      cases hq with
      | seconds x y hx => exact .seconds x y _ hx (by omega)
      | millis x y z w hx => exact .millis x y z w _ hx (by omega)

/-- Runs of columns that hold a point each are replaced by single columns with their points. -/
inductive Compacts : List Column → List Column → Prop
  | nil : Compacts [] []
  | keep {columns columns' : List Column} (c : Column) (h : Compacts columns columns') :
      Compacts (c :: columns) (c :: columns')
  | join {run columns columns' : List Column} {cells : List Cell} {trailer : Bytes}
      (hpoints : run.map decode? = cells.map fun cell => some (.point cell))
      (hmany : 2 ≤ run.length) (htrailer : trailer = [] ∨ trailer = [0] ∨ trailer = [1])
      (h : Compacts columns columns') :
      Compacts (run ++ columns) ((⟨cells, trailer⟩ : Compacted).join :: columns')

theorem stored_of_points {run : List Column} {cells : List Cell}
    (h : run.map decode? = cells.map fun cell => some (.point cell)) :
    ∀ cell ∈ cells, Compacted.Stored cell := by
  intro cell hcell
  have hpoint : some (Decoded.point cell) ∈ run.map decode? := by
    rw [h]
    exact List.mem_map.mpr ⟨cell, hcell, rfl⟩
  obtain ⟨c, -, hc⟩ := List.mem_map.mp hpoint
  exact stored_of_point hc

variable {key : Bytes} {metric tags : String} {base : Int}

theorem locate_sameKind {α : Type} (key : Bytes) (c : Column) (x : Except Fault α) :
    SameKind (locate key c x) x := by
  cases x with
  | ok a => exact .refl _
  | error f =>
      apply congrArg Except.error
      by_cases hdata : f.isAboutData = true
      · rw [if_pos hdata]
        rfl
      · rw [if_neg hdata]

/-- The lines of a column in either style. -/
def lines (style : Style) (metric tags : String) (base : Int) (c : Column) (d : Decoded) :
    Except Fault (List String) :=
  match style with
  | .raw => rawLines base c d
  | .loadable => loadableLines metric tags base d

theorem report_eq {c : Column} {d : Decoded} (h : c.decode? = some d) (style : Style)
    (key : Bytes) (base : Int) (metric tags : String) :
    c.report style key base metric tags =
      (locate key c (lines style metric tags base c d)).map (String.intercalate "\n") := by
  unfold report
  rw [h]
  cases style with
  | raw => rfl
  | loadable => rfl

theorem report_of_decoded {c : Column} {decoded : Decoded} (h : c.decode? = some decoded) :
    SameKind (c.report .loadable key base metric tags)
      ((loadableLines metric tags base decoded).map (String.intercalate "\n")) := by
  rw [report_eq h]
  exact (locate_sameKind key c _).map _

theorem report_of_point {c : Column} {cell : Cell} (h : c.decode? = some (.point cell)) :
    SameKind (c.report .loadable key base metric tags) (cell.importLine metric tags base) := by
  refine (report_of_decoded h).trans ?_
  simp only [loadableLines]
  cases cell.importLine metric tags base with
  | error f => rfl
  | ok line => exact congrArg Except.ok String.intercalate_singleton

end Column

theorem Cell.importLine_ne_empty {cell : Cell} {metric tags line : String} {base : Int}
    (h : cell.importLine metric tags base = .ok line) : line ≠ "" := by
  simp only [importLine, bind_eq_ok_iff] at h
  obtain ⟨timestamp, -, value, -, h⟩ := h
  cases h
  simp

namespace Row

/-- The texts of columns one after the other, each with its end unless it is empty. -/
def columnsText (text : Column → Except Fault String) : List Column → Except Fault String
  | [] => .ok ""
  | c :: columns => do
      let own ← text c
      let others ← columnsText text columns
      return (if own = "" then "" else own ++ "\n") ++ others

theorem linesText_cons (line : String) (lines : List String) :
    linesText (line :: lines) = line ++ "\n" ++ linesText lines := by
  simp [linesText]

theorem linesText_eq_intercalate {lines : List String} (h : lines ≠ []) :
    linesText lines = String.intercalate "\n" lines ++ "\n" := by
  induction lines with
  | nil => exact absurd rfl h
  | cons line lines ih =>
      cases lines with
      | nil => simp [linesText]
      | cons next lines =>
          rw [linesText_cons, ih (by simp), String.intercalate_cons_cons]
          simp only [String.append_assoc]

variable {text : Column → Except Fault String}

theorem mapM_linesText (columns : List Column) :
    (columns.mapM text >>= fun texts => pure (linesText (texts.filter (· ≠ "")))) =
      columnsText text columns := by
  induction columns with
  | nil => rfl
  | cons c columns ih =>
      rw [columnsText, ← ih]
      simp only [List.mapM_cons, bind_assoc, pure_bind]
      congr 1
      funext own
      congr 1
      funext others
      by_cases hown : own = ""
      · simp [hown]
      · simp [hown, linesText_cons]

theorem columnsText_append (before after : List Column) :
    columnsText text (before ++ after) = do
      let first ← columnsText text before
      let others ← columnsText text after
      return first ++ others := by
  induction before with
  | nil =>
      change columnsText text after = columnsText text after >>= fun others => pure ("" ++ others)
      simp
  | cons c before ih =>
      simp only [List.cons_append, columnsText, ih, bind_assoc, pure_bind, String.append_assoc]

section Columns

variable {key : Bytes} {metric tags : String} {base : Int}

theorem importLines_ne_empty {cells : List Cell} {lines : List String}
    (h : cells.mapM (Cell.importLine metric tags base) = .ok lines) :
    lines.length = cells.length ∧ ∀ line ∈ lines, line ≠ "" := by
  induction cells generalizing lines with
  | nil =>
      cases h
      exact ⟨rfl, nofun⟩
  | cons cell cells ih =>
      simp only [List.mapM_cons, bind_eq_ok_iff] at h
      obtain ⟨line, hline, others, hothers, h⟩ := h
      cases h
      obtain ⟨hlength, hsome⟩ := ih hothers
      exact ⟨congrArg (· + 1) hlength,
        List.forall_mem_cons.mpr ⟨Cell.importLine_ne_empty hline, hsome⟩⟩

theorem intercalate_ne_empty {lines : List String} (h : lines ≠ [])
    (hsome : ∀ line ∈ lines, line ≠ "") : String.intercalate "\n" lines ≠ "" := by
  obtain ⟨line, lines, rfl⟩ := List.exists_cons_of_ne_nil h
  cases lines with
  | nil => simpa using hsome line
  | cons next lines =>
      rw [String.intercalate_cons_cons]
      simp

theorem columnsText_points {run : List Column} {cells : List Cell}
    (h : run.map Column.decode? = cells.map fun cell => some (.point cell)) :
    SameKind (columnsText (Column.report .loadable key base metric tags) run)
      (cells.mapM (Cell.importLine metric tags base) >>= fun lines => pure (linesText lines)) := by
  induction run generalizing cells with
  | nil =>
      obtain rfl := List.map_eq_nil_iff.mp h.symm
      exact .refl _
  | cons c run ih =>
      obtain ⟨cell, cells, rfl, hcell, hcells⟩ := List.map_eq_cons_iff.mp h.symm
      rw [columnsText]
      simp only [List.mapM_cons, bind_assoc, pure_bind]
      refine (Column.report_of_point hcell.symm).bind ?_
      intro line hline
      have hrest := (ih hcells.symm).bind fun others _ => .refl (pure (line ++ "\n" ++ others))
      simp only [if_neg (Cell.importLine_ne_empty hline)]
      simpa only [bind_assoc, pure_bind, linesText_cons] using hrest

theorem columnText_join {p : Compacted} (hvalid : p.Valid) (hmany : 2 ≤ p.cells.length)
    (columns : List Column) :
    SameKind (columnsText (Column.report .loadable key base metric tags) (p.join :: columns))
      (do
        let lines ← p.cells.mapM (Cell.importLine metric tags base)
        let others ← columnsText (Column.report .loadable key base metric tags) columns
        return linesText lines ++ others) := by
  have hreport : SameKind (p.join.report .loadable key base metric tags)
      ((p.cells.mapM (Cell.importLine metric tags base)).map (String.intercalate "\n")) :=
    Column.report_of_decoded (Compacted.decode?_join hvalid hmany)
  rw [columnsText]
  refine (hreport.bind fun own _ => .refl _).trans ?_
  cases hlines : p.cells.mapM (Cell.importLine metric tags base) with
  | error f => rfl
  | ok lines =>
      obtain ⟨hlength, hsome⟩ := importLines_ne_empty hlines
      have hnonempty : lines ≠ [] := List.ne_nil_of_length_pos (by omega)
      have hown : String.intercalate "\n" lines ≠ "" := intercalate_ne_empty hnonempty hsome
      simp only [Except.map, bind, Except.bind, if_neg hown, linesText_eq_intercalate hnonempty]
      exact .refl _

theorem columnsText_compacts {columns columns' : List Column}
    (h : Column.Compacts columns columns') :
    SameKind (columnsText (Column.report .loadable key base metric tags) columns)
      (columnsText (Column.report .loadable key base metric tags) columns') := by
  induction h with
  | nil => exact .refl _
  | keep c h ih =>
      rw [columnsText, columnsText]
      exact (SameKind.refl _).bind fun own _ => ih.bind fun others _ => .refl _
  | @join run columns columns' cells trailer hpoints hmany htrailer h ih =>
      have hlength : run.length = cells.length := by
        simpa using congrArg List.length hpoints
      have hnonempty : cells ≠ [] := List.ne_nil_of_length_pos (by omega)
      have hvalid : (⟨cells, trailer⟩ : Compacted).Valid :=
        ⟨hnonempty, Column.stored_of_points hpoints, htrailer⟩
      refine SameKind.trans ?_ (columnText_join hvalid (hlength ▸ hmany) columns').symm
      rw [columnsText_append]
      refine ((columnsText_points hpoints).bind fun first _ => ih.bind fun others _ => .refl _).trans ?_
      simp only [bind_assoc, pure_bind]
      exact .refl _

end Columns

variable {σ : Type}

theorem orFail_bind {α β : Type} (x : Except Fault α) (g : α → β) :
    (orFail x >>= fun a => pure (g a) : Task σ β) = orFail (x >>= fun a => pure (g a)) := by
  cases x <;> rfl

theorem loadableReport_eq (d : Directory (Task σ)) (l : Layout) (row : Row) :
    row.loadableReport d l = locate row.key (Series.ofKey d l row.key) >>= fun series =>
      orFail (columnsText (Column.report .loadable row.key series.time series.metric
        (String.join (series.tags.map fun t => " " ++ t.1 ++ "=" ++ t.2))) row.columns) := by
  unfold loadableReport
  congr 1
  funext series
  rw [← mapM_linesText, ← orFail_bind]

/-- A row and the row with some of its points compacted give the same text in loadable style, or
fail with faults of the same kind. The lookups in the directory are the same. -/
theorem report_compacts (d : Directory (Task σ)) (l : Layout) (key : Bytes)
    {columns columns' : List Column} (h : Column.Compacts columns columns') (s : σ) :
    SameKind ((report .loadable d l ⟨key, columns⟩).run.run s).1
        ((report .loadable d l ⟨key, columns'⟩).run.run s).1 ∧
      ((report .loadable d l ⟨key, columns⟩).run.run s).2 =
        ((report .loadable d l ⟨key, columns'⟩).run.run s).2 := by
  simp only [report, loadableReport_eq]
  rcases hseries : (locate key (Series.ofKey d l key)).run.run s with ⟨f | series, s₁⟩
  · rw [Task.bind_of_error hseries, Task.bind_of_error hseries]
    exact ⟨.refl _, rfl⟩
  · rw [Task.bind_of_ok hseries, Task.bind_of_ok hseries]
    have hrun : ∀ x : Except Fault String, (orFail x : Task σ String).run.run s₁ = (x, s₁) := by
      intro x
      cases x <;> rfl
    rw [hrun, hrun]
    exact ⟨columnsText_compacts h, rfl⟩

/-- A whole number, a float with a time in milliseconds and a float in eight bytes. -/
def sampleColumns : List Column :=
  [⟨[0, 0], [7]⟩, ⟨[240, 0, 1, 11], [66, 40, 0, 0]⟩, ⟨[0, 27], [0, 0, 0, 0, 66, 41, 0, 0]⟩]

/-- The same points in one column, with a byte of metadata. -/
def sampleCompacted : Column :=
  ⟨[0, 0, 240, 0, 1, 11, 0, 27], [7, 66, 40, 0, 0, 66, 41, 0, 0, 1]⟩

def sampleDirectory : Directory (Task Unit) :=
  (⟨[("load", [1])], [("host", [2])], [("web", [3])]⟩ : UidTable).directory

theorem report_compacts_sample :
    Column.Compacts (sampleColumns ++ [⟨[1], []⟩]) [sampleCompacted, ⟨[1], []⟩] ∧
      ((report .loadable sampleDirectory ⟨1, 1, 1, 2⟩
        ⟨[1, 0, 9, 2, 3], sampleColumns ++ [⟨[1], []⟩]⟩).run.run ()).1.toOption =
        some "load 9 7 host=web\nload 9004 42.0 host=web\nload 10 42.25 host=web\n" := by
  have hpoints : sampleColumns.map Column.decode? =
      [⟨[0, 0], [7]⟩, ⟨[240, 0, 1, 11], [66, 40, 0, 0]⟩, ⟨[0, 27], [66, 41, 0, 0]⟩].map
        fun cell => some (.point cell) := by
    decide
  have hcompacts : Column.Compacts (sampleColumns ++ [⟨[1], []⟩]) [sampleCompacted, ⟨[1], []⟩] :=
    .join hpoints (by decide) (.inr (.inr rfl)) (.keep _ .nil)
  have htext : ((report .loadable sampleDirectory ⟨1, 1, 1, 2⟩
      ⟨[1, 0, 9, 2, 3], [sampleCompacted, ⟨[1], []⟩]⟩).run.run ()).1.toOption =
      some "load 9 7 host=web\nload 9004 42.0 host=web\nload 10 42.25 host=web\n" := by
    decide +kernel
  obtain ⟨hsame, -⟩ := report_compacts sampleDirectory ⟨1, 1, 1, 2⟩ [1, 0, 9, 2, 3] hcompacts ()
  exact ⟨hcompacts, hsame.toOption_eq.trans htext⟩

end Row

end RawSeries
