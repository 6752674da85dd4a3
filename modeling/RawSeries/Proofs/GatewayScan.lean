import RawSeries.Proofs.ByteOrder
import RawSeries.Proofs.ScannerPaging

namespace RawSeries.Gateway

namespace CellTable

/-- The columns of a family among the cells of a row, in the order in which they are stored. -/
def columnsIn (family : Bytes) (cells : List (Bytes × Bytes)) : List Column :=
  ((inOrder cells).filter fun c => (Bytes.cut CellSet.colon c.1).1 == family).map fun c =>
    ⟨(Bytes.cut CellSet.colon c.1).2, c.2⟩

/-- The rows of a range that have cells of a family and keys that are accepted, in key order. -/
def rowsIn (t : CellTable) (start stop family : Bytes) (accept : Bytes → Bool) : List Row :=
  ((inOrder (t.filter fun row => inRange start stop row.1)).map fun row =>
    (⟨row.1, columnsIn family row.2⟩ : Row)).filter fun row =>
      accept row.key && !row.columns.isEmpty

theorem cut_eq_of_not_mem {x : UInt8} {b : Bytes} (h : x ∉ b) : Bytes.cut x b = (b, []) := by
  induction b with
  | nil => rfl
  | cons y b ih =>
      have hy : y ≠ x := fun hyx => h (by simp [hyx])
      have hb : x ∉ b := fun hx => h (List.mem_cons_of_mem y hx)
      simp only [Bytes.cut, if_neg hy, ih hb]

theorem wants_family {family : Bytes} (h : CellSet.colon ∉ family) (column : Bytes) :
    wants [family] column = ((Bytes.cut CellSet.colon column).1 == family) := by
  by_cases hcolumn : column = family
  · subst hcolumn
    simp [wants, cut_eq_of_not_mem h]
  · simp [wants, hcolumn, Bool.beq_eq_decide_eq]

theorem inOrder_pairwise {α : Type} (pairs : List (Bytes × α)) :
    (inOrder pairs).Pairwise fun a b => Bytes.before b.1 a.1 = false := by
  have htrans : ∀ a b c : Bytes × α, (!Bytes.before b.1 a.1) = true →
      (!Bytes.before c.1 b.1) = true → (!Bytes.before c.1 a.1) = true := by
    intro a b c hab hbc
    simp only [Bool.not_eq_true'] at hab hbc ⊢
    exact Bytes.not_before_trans hab hbc
  have htotal : ∀ a b : Bytes × α, (!Bytes.before b.1 a.1 || !Bytes.before a.1 b.1) = true := by
    intro a b
    simpa using Bytes.not_before_total a.1 b.1
  have hsorted := List.pairwise_mergeSort htrans htotal pairs
  exact hsorted.imp fun h => by simpa using h

theorem inOrder_perm {α : Type} (pairs : List (Bytes × α)) : (inOrder pairs).Perm pairs :=
  List.mergeSort_perm pairs _

theorem inOrder_keys_pairwise {α : Type} {pairs : List (Bytes × α)}
    (h : (pairs.map Prod.fst).Nodup) :
    (inOrder pairs).Pairwise fun a b => Bytes.before a.1 b.1 = true := by
  have hdistinct : ((inOrder pairs).map Prod.fst).Nodup :=
    ((inOrder_perm pairs).map Prod.fst).nodup_iff.mpr h
  have hne : (inOrder pairs).Pairwise fun a b => a.1 ≠ b.1 := List.pairwise_map.mp hdistinct
  exact ((inOrder_pairwise pairs).and hne).imp fun h => Bytes.before_of_ne h.1 h.2

def keyed (r : CellRow) : List ScanCell :=
  r.2.map fun c => (r.1, c.1, c.2)

theorem mem_join_some {p row : Row} {b : List Row} (h : row ∈ Cursor.join (some p) b) :
    row.key = p.key ∨ ∃ r ∈ b, r.key = row.key := by
  rcases b with _ | ⟨r, b⟩
  · obtain rfl : row = p := by simpa using h
    exact .inl rfl
  · by_cases hr : r.key = p.key
    · rw [Cursor.join_some_cons_of_eq hr] at h
      rcases List.mem_cons.mp h with rfl | hmem
      · exact .inl rfl
      · exact .inr ⟨row, List.mem_cons_of_mem r hmem, rfl⟩
    · rw [Cursor.join_some_cons_of_ne hr] at h
      rcases List.mem_cons.mp h with rfl | hmem
      · exact .inl rfl
      · exact .inr ⟨row, hmem, rfl⟩

theorem key_of_mem_rowsOf {family : Option Bytes} {cells : List ScanCell} {row : Row}
    (h : row ∈ rowsOf family cells) : ∃ cell ∈ cells, cell.1 = row.key := by
  induction cells generalizing row with
  | nil => simp [rowsOf, CellTable.grouped] at h
  | cons cell cells ih =>
      rw [rowsOf_cons] at h
      rcases mem_join_some h with hkey | ⟨r, hr, hkey⟩
      · exact ⟨cell, by simp, hkey.symm⟩
      · obtain ⟨other, hother, hsame⟩ := ih hr
        exact ⟨other, List.mem_cons_of_mem cell hother, hsame.trans hkey⟩

theorem key_of_mem_flatMap_keyed {family : Option Bytes} {rows : List CellRow} {row : Row}
    (h : row ∈ rowsOf family (rows.flatMap keyed)) : row.key ∈ rows.map Prod.fst := by
  obtain ⟨cell, hcell, hkey⟩ := key_of_mem_rowsOf h
  obtain ⟨r, hr, hcell⟩ := List.mem_flatMap.mp hcell
  obtain ⟨c, _, rfl⟩ := List.mem_map.mp hcell
  exact List.mem_map.mpr ⟨r, hr, hkey⟩

theorem rowsOf_keyed (family : Option Bytes) (key : Bytes) (c : Bytes × Bytes)
    (cells : List (Bytes × Bytes)) :
    rowsOf family (keyed (key, c :: cells)) = [CellSet.rowOf family (key, c :: cells)] := by
  induction cells generalizing c with
  | nil => rfl
  | cons d cells ih =>
      have hcons : keyed (key, c :: d :: cells) = (key, c) :: keyed (key, d :: cells) := rfl
      rw [hcons, rowsOf_cons, ih d, Cursor.join_some_cons_of_eq (by rfl)]
      simp only [CellSet.rowOf, Row.merge, List.filterMap_cons, List.filterMap_nil]
      cases CellSet.columnOf? family c <;> rfl

theorem rowsOf_flatMap (family : Option Bytes) (rows : List CellRow)
    (h : (rows.map Prod.fst).Nodup) :
    rowsOf family (rows.flatMap keyed) =
      (rows.filter fun r => !r.2.isEmpty).map (CellSet.rowOf family) := by
  induction rows with
  | nil => rfl
  | cons r rows ih =>
      obtain ⟨key, cells⟩ := r
      obtain ⟨hkey, hrows⟩ := List.nodup_cons.mp h
      rw [List.flatMap_cons, rowsOf_append]
      rcases cells with _ | ⟨c, cells⟩
      · rw [List.filter_cons_of_neg (by simp), ← ih hrows]
        rfl
      · rw [List.filter_cons_of_pos (by simp), rowsOf_keyed, Cursor.glue_singleton, List.map_cons,
          ← ih hrows]
        rcases hrest : rowsOf family (rows.flatMap keyed) with _ | ⟨row, rest⟩
        · rfl
        · have hmem : row.key ∈ rows.map Prod.fst := key_of_mem_flatMap_keyed (by rw [hrest]; simp)
          have hne : row.key ≠ (CellSet.rowOf family (key, c :: cells)).key := by
            intro heq
            rw [heq] at hmem
            exact hkey hmem
          rw [Cursor.join_some_cons_of_ne hne]

theorem cells_eq_flatMap (t : CellTable) (scan : ScanRequest) :
    t.cells scan =
      ((inOrder (t.filter fun row => inRange scan.start scan.stop row.1)).map fun row =>
        (row.1, (inOrder row.2).filter fun c => wants scan.columns c.1)).flatMap keyed := by
  rw [cells, List.flatMap_map]
  rfl

theorem columns_rowOf {family : Bytes} (h : CellSet.colon ∉ family) (key : Bytes)
    (cells : List (Bytes × Bytes)) :
    CellSet.rowOf (some family) (key, (inOrder cells).filter fun c => wants [family] c.1) =
      ⟨key, columnsIn family cells⟩ := by
  have hcolumns : ∀ l : List (Bytes × Bytes),
      (l.filter fun c => wants [family] c.1).filterMap (CellSet.columnOf? (some family)) =
        (l.filter fun c => (Bytes.cut CellSet.colon c.1).1 == family).map fun c =>
          (⟨(Bytes.cut CellSet.colon c.1).2, c.2⟩ : Column) := by
    intro l
    induction l with
    | nil => rfl
    | cons c l ih =>
        simp only [List.filter_cons, wants_family h] at ih ⊢
        split
        · rename_i hown
          have hown : (Bytes.cut CellSet.colon c.1).1 = family := by simpa using hown
          simp [CellSet.columnOf?, hown, ih]
        · exact ih
  rw [CellSet.rowOf, hcolumns]
  rfl

theorem isEmpty_columnsIn {family : Bytes} (h : CellSet.colon ∉ family)
    (cells : List (Bytes × Bytes)) :
    (columnsIn family cells).isEmpty =
      ((inOrder cells).filter fun c => wants [family] c.1).isEmpty := by
  simp only [columnsIn, List.isEmpty_map, wants_family h]

theorem keys_inRange {t : CellTable} (hkeys : (t.map Prod.fst).Nodup) (start stop : Bytes) :
    ((t.filter fun row => inRange start stop row.1).map Prod.fst).Nodup :=
  hkeys.sublist ((List.filter_sublist).map Prod.fst)

theorem toCome_cells {t : CellTable} (hkeys : (t.map Prod.fst).Nodup) (scan : ScanRequest)
    (family : Option Bytes) (accept : Bytes → Bool) (location : String) :
    (Cursor.ofLocation location family accept).toCome (t.cells scan) =
      ((((inOrder (t.filter fun row => inRange scan.start scan.stop row.1)).map fun row =>
        (row.1, (inOrder row.2).filter fun c => wants scan.columns c.1)).filter fun r =>
          !r.2.isEmpty).map (CellSet.rowOf family)).filter fun row => accept row.key := by
  let rows := inOrder (t.filter fun row => inRange scan.start scan.stop row.1)
  let stored (row : CellRow) : CellRow :=
    (row.1, (inOrder row.2).filter fun c => wants scan.columns c.1)
  have hdistinct : ((rows.map stored).map Prod.fst).Nodup := by
    rw [List.map_map]
    exact ((inOrder_perm _).map Prod.fst).nodup_iff.mpr (keys_inRange hkeys scan.start scan.stop)
  rw [Cursor.toCome, cells_eq_flatMap]
  change ((rowsOf family ((rows.map stored).flatMap keyed)).filter fun row => accept row.key) = _
  rw [rowsOf_flatMap _ _ hdistinct]

theorem toCome_ofLocation {t : CellTable} (hkeys : (t.map Prod.fst).Nodup)
    {family : Bytes} (hfamily : CellSet.colon ∉ family) (start stop : Bytes) (batch : Nat)
    (accept : Bytes → Bool) (location : String) :
    (Cursor.ofLocation location (Session.familyOf [family]) accept).toCome
      (t.cells ⟨start, stop, batch, [family]⟩) = t.rowsIn start stop family accept := by
  have hown : Session.familyOf [family] = some family := by
    simp [Session.familyOf, cut_eq_of_not_mem hfamily]
  rw [hown, toCome_cells hkeys, rowsIn]
  dsimp only
  induction inOrder (t.filter fun row => inRange start stop row.1) with
  | nil => rfl
  | cons row l ih =>
      have hrow := columns_rowOf hfamily row.1 row.2
      have hempty := isEmpty_columnsIn hfamily row.2
      simp only [List.map_cons, List.filter_cons, hempty] at ih ⊢
      cases (List.filter (fun c => wants [family] c.1) (inOrder row.2)).isEmpty with
      | true => simpa using ih
      | false => simp [hrow, List.filter_cons, ih]

theorem rowsIn_pairwise {t : CellTable} (hkeys : (t.map Prod.fst).Nodup)
    (start stop family : Bytes) (accept : Bytes → Bool) :
    (t.rowsIn start stop family accept).Pairwise fun a b => Bytes.before a.key b.key = true := by
  have hordered := inOrder_keys_pairwise (keys_inRange hkeys start stop)
  exact List.Pairwise.filter _ (List.pairwise_map.mpr hordered)

end CellTable

namespace Session

/-- The gateway of a session holds a scanner at an address, with these answers left. -/
structure Offers (s : Session) (location : String) (answers : List Answer) : Prop where
  goesOn : s.ended = false
  served : ∃ asked tables scanners opened, s.base.resolve location = .ok asked ∧
    asked.isSendable = true ∧ s.service = .serving tables scanners opened ∧
    scanners.lookup (String.ofList asked.target) = some answers

/-- The pages that a cursor hands out one after the other, until there is nothing more. -/
inductive Drains : Session → Cursor → List (List Row) → Prop where
  | stop {s s' : Session} {c c' : Cursor} (h : (next c).run s = ((.ok none, c'), s')) :
      Drains s c []
  | more {s s' : Session} {c c' : Cursor} {rows : List Row} {pages : List (List Row)}
      (h : (next c).run s = ((.ok (some rows), c'), s')) (rest : Drains s' c' pages) :
      Drains s c (rows :: pages)

theorem lookup_setPages {scanners : List (String × List Answer)} {path : String}
    {answers : List Answer} (h : scanners.lookup path = some answers) (left : List Answer) :
    (scanners.map fun s => if s.1 = path then (path, left) else s).lookup path = some left := by
  induction scanners with
  | nil => simp at h
  | cons entry scanners ih =>
      obtain ⟨name, old⟩ := entry
      by_cases hname : name = path
      · simp [hname]
      · have hother : (path == name) = false := by simpa using Ne.symm hname
        rw [List.lookup_cons, hother] at h
        rw [List.map_cons, if_neg hname, List.lookup_cons, hother]
        exact ih h

theorem next_run {s : Session} {c : Cursor} {asked : Address}
    (hasked : s.base.resolve c.location = .ok asked) (hgoes : s.ended = false) :
    (next c).run s =
      let path := String.ofList asked.target
      let turn := c.next asked (s.service.pages path)
      ((turn.result, turn.cursor), { s with
        service := s.service.setPages path turn.left
        events := s.events ++ turn.events }) := by
  have hopen : (s.ended && !c.done) = false := by rw [hgoes, Bool.false_and]
  simp only [next, StateT.run_bind, StateT.run_get, pure_bind, hasked, hopen]
  rfl

theorem next_isRight {s : Session} {c : Cursor} {cut : List (List ScanCell)}
    (hoffers : s.Offers c.location (cut.map pageAnswer)) (hrests : c.Rests cut) :
    ∃ t left s', (next c).run s = ((t.result, t.cursor), s') ∧ Turn.IsRight t c cut left ∧
      s'.Offers t.cursor.location (left.map pageAnswer) := by
  obtain ⟨hgoes, asked, tables, scanners, opened, hasked, hsend, hservice, hlookup⟩ := hoffers
  obtain ⟨left, hright⟩ := Cursor.next_isRight hsend c cut hrests
  have hpages : s.service.pages (String.ofList asked.target) = cut.map pageAnswer := by
    simp [hservice, Service.pages, hlookup]
  have hrun := next_run hasked hgoes
  simp only [hpages] at hrun
  refine ⟨c.next asked (cut.map pageAnswer), left, _, hrun, hright, hgoes, ?_⟩
  rw [hright.location]
  refine ⟨asked, tables, _, opened, hasked, hsend, ?_, lookup_setPages hlookup _⟩
  rw [hservice, hright.remains]
  rfl

/-- Calling for rows until there are no more hands out all the rows to come. -/
theorem exists_drains {s : Session} {c : Cursor} {cut : List (List ScanCell)}
    (hoffers : s.Offers c.location (cut.map pageAnswer)) (hrests : c.Rests cut) :
    ∃ pages, Drains s c pages ∧ (∀ page ∈ pages, page ≠ []) ∧
      pages.flatten = c.toCome cut.flatten := by
  -- One call can use up many answers, and the last rows need a call without any.
  induction hcalls : c.callsLeft cut using Nat.strongRecOn generalizing s c cut with
  | ind calls ih =>
      obtain ⟨t, left, s', hrun, hright, hoffers'⟩ := next_isRight hoffers hrests
      rcases hright.handed with ⟨hnone, hcome⟩ | ⟨rows, hrows, hne, hcome, hfewer⟩
      · rw [hnone] at hrun
        exact ⟨[], .stop hrun, by simp, hcome.symm⟩
      · rw [hrows] at hrun
        obtain ⟨pages, hdrains, hpages, hflatten⟩ :=
          ih (t.cursor.callsLeft left) (hcalls ▸ hfewer) hoffers' hright.rests rfl
        refine ⟨rows :: pages, .more hrun hdrains, List.forall_mem_cons.mpr ⟨hne, hpages⟩, ?_⟩
        rw [List.flatten_cons, hflatten, hcome]

/-- A cursor on a scanner of one family hands out exactly the rows of the range that have cells of
the family and keys that are accepted. They are whole and in order, and do not depend on the number
of cells that make a page. -/
theorem drains_rowsIn {t : CellTable} (hkeys : (t.map Prod.fst).Nodup) {family : Bytes}
    (hfamily : CellSet.colon ∉ family) (start stop : Bytes) (accept : Bytes → Bool) (cells : Nat)
    {s : Session} {location : String}
    (hoffers : s.Offers location (t.answers ⟨start, stop, cells + 1, [family]⟩)) :
    ∃ pages, Drains s (.ofLocation location (familyOf [family]) accept) pages ∧
      (∀ page ∈ pages, page ≠ []) ∧
      pages.flatten = t.rowsIn start stop family accept ∧
      pages.flatten.Pairwise fun a b => Bytes.before a.key b.key = true := by
  let c : Cursor := .ofLocation location (familyOf [family]) accept
  obtain ⟨cut, hanswers, hcut⟩ := answers_eq_map t ⟨start, stop, cells + 1, [family]⟩
  rw [hanswers] at hoffers
  have hrests : c.Rests cut := fun hdone => absurd (show false = true from hdone) (by decide)
  obtain ⟨pages, hdrains, hpages, hflatten⟩ := exists_drains (c := c) hoffers hrests
  rw [hcut, CellTable.toCome_ofLocation hkeys hfamily] at hflatten
  refine ⟨pages, hdrains, hpages, hflatten, ?_⟩
  rw [hflatten]
  exact CellTable.rowsIn_pairwise hkeys start stop family accept

/-- A table with a row of three cells, one of them of another family, and a row of one cell. -/
def sampleTable : CellTable :=
  [([1], [([116, 58, 0], [10]), ([116, 58, 58], [8]), ([120, 58, 1], [9])]),
    ([2], [([116, 58, 5], [7])])]

/-- A session in which a scanner on the sample has been opened with one cell a page. -/
def sampleSession : Session where
  service := .serving [("tsdb", sampleTable)]
    [("/tsdb/scanner/1", sampleTable.answers ⟨[], [], 1, [[116]]⟩)] 1
  base := match Address.readBase "http://gw" with
    | .ok base => base
    | .error _ => .blank
  ended := false
  events := []
  names := []
  ids := []

theorem sampleSession_offers :
    sampleSession.Offers "http://gw/tsdb/scanner/1"
      (sampleTable.answers ⟨[], [], 1, [[116]]⟩) := by
  have hsent : (sampleSession.base.resolve "http://gw/tsdb/scanner/1").toOption.any
      (fun a => a.isSendable && String.ofList a.target == "/tsdb/scanner/1") = true := by
    decide +kernel
  cases hasked : sampleSession.base.resolve "http://gw/tsdb/scanner/1" with
  | error flaw => simp [hasked, Except.toOption] at hsent
  | ok asked =>
      obtain ⟨hsend, hpath⟩ : asked.isSendable = true ∧
          String.ofList asked.target = "/tsdb/scanner/1" := by
        simpa [hasked, Except.toOption] using hsent
      exact ⟨rfl, asked, _, _, _, hasked, hsend, rfl, by simp [hpath]⟩

theorem drains_rowsIn_sample :
    (sampleTable.map Prod.fst).Nodup ∧ CellSet.colon ∉ ([116] : Bytes) ∧
      sampleSession.Offers "http://gw/tsdb/scanner/1"
        (sampleTable.answers ⟨[], [], 1, [[116]]⟩) ∧
      ∃ pages, Drains sampleSession
          (.ofLocation "http://gw/tsdb/scanner/1" (familyOf [[116]]) fun _ => true) pages ∧
        pages.flatten =
          [⟨[1], [⟨[0], [10]⟩, ⟨[58], [8]⟩]⟩, ⟨[2], [⟨[5], [7]⟩]⟩] := by
  have hkeys : (sampleTable.map Prod.fst).Nodup := by decide
  have hfamily : CellSet.colon ∉ ([116] : Bytes) := by decide
  obtain ⟨pages, hdrains, _, hflatten, _⟩ :=
    drains_rowsIn hkeys hfamily [] [] (fun _ => true) 0 sampleSession_offers
  refine ⟨hkeys, hfamily, sampleSession_offers, pages, hdrains, ?_⟩
  have hrows : CellTable.inOrder (sampleTable.filter fun row => CellTable.inRange [] [] row.1) =
      sampleTable := List.mergeSort_of_pairwise (by decide)
  have hfirst : CellTable.columnsIn [116]
      [([116, 58, 0], [10]), ([116, 58, 58], [8]), ([120, 58, 1], [9])] =
        [⟨[0], [10]⟩, ⟨[58], [8]⟩] := by
    rw [CellTable.columnsIn, CellTable.inOrder, List.mergeSort_of_pairwise (by decide)]
    decide
  have hsecond : CellTable.columnsIn [116] [([116, 58, 5], [7])] = [⟨[5], [7]⟩] := by
    rw [CellTable.columnsIn, CellTable.inOrder, List.mergeSort_of_pairwise (by decide)]
    decide
  rw [hflatten, CellTable.rowsIn, hrows]
  simp only [sampleTable, List.map_cons, List.map_nil, hfirst, hsecond]
  decide

end Session

end RawSeries.Gateway
