import RawSeries.Gateway.CellSet
import RawSeries.Gateway.Service
import RawSeries.Proofs.Base64RoundTrip

namespace RawSeries.CellSet

open Gateway (CellRow)

/-- The column that a cell is read as, unless it is of another family. -/
def columnOf? (family : Option Bytes) (cell : Bytes × Bytes) : Option Column :=
  if family.any (· != (Bytes.cut colon cell.1).1) then none
  else some ⟨(Bytes.cut colon cell.1).2, cell.2⟩

/-- The row that the cells of a key are read as. -/
def rowOf (family : Option Bytes) (r : CellRow) : Row :=
  ⟨r.1, r.2.filterMap (columnOf? family)⟩

theorem bytesOf_encode (b : Bytes) : bytesOf (.text (Base64.encode b)) = .ok b := by
  have hdecode := Base64.decode_encode b
  by_cases hempty : Base64.encode b = ""
  · rw [hempty] at hdecode ⊢
    have hnil : Base64.decode "" = .ok [] := rfl
    rw [hnil] at hdecode
    exact congrArg Except.ok (Except.ok.inj hdecode)
  · have hkept : isEmpty (.text (Base64.encode b)) = false := by simpa [isEmpty] using hempty
    simp only [bytesOf, hkept, hdecode]
    rfl

theorem mapM_eq_ok {α β ε : Type} {f : α → Except ε β} {g : α → β} (h : ∀ a, f a = .ok (g a))
    (l : List α) : l.mapM f = .ok (l.map g) := by
  have hpure : f = fun a => pure (g a) := funext h
  rw [hpure, List.mapM_pure]
  rfl

theorem readCell_encodeCell (family : Option Bytes) (cell : Bytes × Bytes) :
    readCell family (encodeCell cell.1 cell.2) = .ok (columnOf? family cell) := by
  obtain ⟨name, value⟩ := cell
  let fields : List (WideText × Json) :=
    [("column", .text (Base64.encode name)), ("$", .text (Base64.encode value))]
  have hname : fields.lookup (.plain "column") = some (.text (Base64.encode name)) := rfl
  have hvalue : fields.lookup (.plain "$") = some (.text (Base64.encode value)) := rfl
  simp only [readCell, encodeCell, fields, hname, hvalue, Option.getD_some, bytesOf_encode, columnOf?]
  change (if family.any (· != (Bytes.cut colon name).1) then _ else _) = _
  split
  · rfl
  · rfl

theorem readRow_encodeRow (family : Option Bytes) (r : CellRow) :
    readRow family (encodeRow r.1 r.2) = .ok (rowOf family r) := by
  obtain ⟨key, cells⟩ := r
  have hcells : (cells.map fun c => encodeCell c.1 c.2).mapM (readCell family) =
      .ok (cells.map (columnOf? family)) := by
    rw [List.mapM_map]
    exact mapM_eq_ok (readCell_encodeCell family) cells
  have hunder : itemsUnder "Cell" (encodeRow key cells) =
      .ok (cells.map fun c => encodeCell c.1 c.2) := rfl
  have hkey : (encodeRow key cells).field? "key" = some (.text (Base64.encode key)) := rfl
  simp only [readRow, hunder, hkey, rowOf]
  change (do
    let columns ← (cells.map fun c => encodeCell c.1 c.2).mapM (readCell family)
    return ⟨← bytesOf (.text (Base64.encode key)), columns.filterMap id⟩ : Except Fault Row) = _
  rw [hcells, bytesOf_encode]
  change Except.ok (⟨key, (cells.map (columnOf? family)).filterMap id⟩ : Row) = _
  rw [List.filterMap_map]
  rfl

theorem read_encode (family : Option Bytes) (rows : List CellRow) :
    read family (encode rows) = .ok (rows.map (rowOf family)) := by
  have hunder : itemsUnder "Row" (encode rows) = .ok (rows.map fun r => encodeRow r.1 r.2) := rfl
  simp only [read, hunder]
  change (rows.map fun r => encodeRow r.1 r.2).mapM (readRow family) = _
  rw [List.mapM_map]
  exact mapM_eq_ok (readRow_encodeRow family) rows

theorem cut_column {family : Bytes} (h : colon ∉ family) (qualifier : Bytes) :
    Bytes.cut colon (family ++ colon :: qualifier) = (family, qualifier) := by
  induction family with
  | nil => simp [Bytes.cut]
  | cons y family ih =>
      obtain ⟨hy, hfamily⟩ : colon ≠ y ∧ colon ∉ family := by simpa using h
      simp only [List.cons_append, Bytes.cut, if_neg (Ne.symm hy), ih hfamily]

/-- A column and the family that it belongs to. -/
structure Member where
  family : Bytes
  column : Column

def Member.cell (m : Member) : Bytes × Bytes :=
  (m.family ++ colon :: m.column.qualifier, m.column.value)

/-- The columns of a family in their order, and columns of other families anywhere among them. -/
inductive Interleaved (family : Bytes) : List Column → List Member → Prop
  | nil : Interleaved family [] []
  | own {columns : List Column} {members : List Member} (c : Column)
      (h : Interleaved family columns members) :
      Interleaved family (c :: columns) (⟨family, c⟩ :: members)
  | other {columns : List Column} {members : List Member} (m : Member) (hcolon : colon ∉ m.family)
      (hfamily : m.family ≠ family) (h : Interleaved family columns members) :
      Interleaved family columns (m :: members)

theorem columnOf?_cell {m : Member} (h : colon ∉ m.family) (family : Option Bytes) :
    columnOf? family m.cell = if family.any (· != m.family) then none else some m.column := by
  simp only [columnOf?, Member.cell, cut_column h]

theorem Interleaved.columns_own {family : Bytes} {columns : List Column} {members : List Member}
    (hfamily : colon ∉ family) (h : Interleaved family columns members) :
    (members.map Member.cell).filterMap (columnOf? (some family)) = columns := by
  induction h with
  | nil => rfl
  | @own columns members c h ih =>
      have hown : columnOf? (some family) (Member.cell ⟨family, c⟩) = some c := by
        simp [columnOf?_cell (m := ⟨family, c⟩) hfamily]
      rw [List.map_cons, List.filterMap_cons_some hown, ih]
  | @other columns members m hcolon hother h ih =>
      have hskipped : columnOf? (some family) m.cell = none := by
        simp [columnOf?_cell hcolon, Ne.symm hother]
      rw [List.map_cons, List.filterMap_cons_none hskipped, ih]

theorem Interleaved.columns_all {family : Bytes} {columns : List Column} {members : List Member}
    (hfamily : colon ∉ family) (h : Interleaved family columns members) :
    (members.map Member.cell).filterMap (columnOf? none) = members.map Member.column := by
  induction h with
  | nil => rfl
  | own c h ih =>
      have hown : columnOf? none (Member.cell ⟨family, c⟩) = some c := columnOf?_cell hfamily none
      rw [List.map_cons, List.filterMap_cons_some hown, ih, List.map_cons]
  | other m hcolon hother h ih =>
      have hown : columnOf? none m.cell = some m.column := columnOf?_cell hcolon none
      rw [List.map_cons, List.filterMap_cons_some hown, ih, List.map_cons]

/-- The set of cells for rows, each with the members that stand under its key. -/
def encodeMembers (rows : List (Row × List Member)) : Json :=
  encode (rows.map fun r => (r.1.key, r.2.map Member.cell))

/-- The rows of a family are read back from any set of cells that holds them among cells of other
families, and without a family all columns of the set are read, in their order. -/
theorem read_interleaved {family : Bytes} (hfamily : colon ∉ family)
    {rows : List (Row × List Member)} (h : ∀ r ∈ rows, Interleaved family r.1.columns r.2) :
    read (some family) (encodeMembers rows) = .ok (rows.map Prod.fst) ∧
      read none (encodeMembers rows) =
        .ok (rows.map fun r => ⟨r.1.key, r.2.map Member.column⟩) := by
  constructor
  · rw [encodeMembers, read_encode, List.map_map]
    congr 1
    apply List.map_congr_left
    intro r hr
    exact congrArg (Row.mk r.1.key) ((h r hr).columns_own hfamily)
  · rw [encodeMembers, read_encode, List.map_map]
    congr 1
    apply List.map_congr_left
    intro r hr
    exact congrArg (Row.mk r.1.key) ((h r hr).columns_all hfamily)

/-- A row without a key and a row whose own columns stand around one of another family. The
qualifiers begin with colons and values are empty. -/
def sampleRows : List (Row × List Member) :=
  [(⟨[], [⟨[58], []⟩]⟩, [⟨[116], ⟨[58], []⟩⟩]),
    (⟨[0, 255], [⟨[58, 1], [7]⟩, ⟨[], [0]⟩]⟩,
      [⟨[116], ⟨[58, 1], [7]⟩⟩, ⟨[116, 116], ⟨[2], []⟩⟩, ⟨[116], ⟨[], [0]⟩⟩])]

theorem read_interleaved_sample :
    colon ∉ ([116] : Bytes) ∧ (∀ r ∈ sampleRows, Interleaved [116] r.1.columns r.2) ∧
      encodeMembers sampleRows = .object [("Row", .list [
        .object [("key", .text ""),
          ("Cell", .list [.object [("column", .text "dDo6"), ("$", .text "")]])],
        .object [("key", .text "AP8="),
          ("Cell", .list [.object [("column", .text "dDo6AQ=="), ("$", .text "Bw==")],
            .object [("column", .text "dHQ6Ag=="), ("$", .text "")],
            .object [("column", .text "dDo="), ("$", .text "AA==")]])]])] ∧
      read (some [116]) (encodeMembers sampleRows) = .ok (sampleRows.map Prod.fst) := by
  have hcolon : colon ∉ ([116] : Bytes) := by decide
  have hrows : ∀ r ∈ sampleRows, Interleaved [116] r.1.columns r.2 := by
    intro r hr
    rcases List.mem_cons.mp hr with rfl | hr
    · exact .own _ .nil
    · obtain rfl := List.mem_singleton.mp hr
      exact .own _ (.other _ (by decide) (by decide) (.own _ .nil))
  exact ⟨hcolon, hrows, rfl, (read_interleaved hcolon hrows).1⟩

end RawSeries.CellSet
