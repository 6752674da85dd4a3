import RawSeries.Gateway.Session
import RawSeries.Proofs.CellSetRoundTrip

namespace RawSeries.Gateway

open CellSet (rowOf)

/-- The cells of a scan: key, column and value. -/
abbrev ScanCell := Bytes × Bytes × Bytes

namespace Cursor

/-- Rows after other rows, the last of which may go on in the first. -/
def glue (a b : List Row) : List Row :=
  a.dropLast ++ join a.getLast? b

@[simp] theorem join_none (b : List Row) : join none b = b := by
  simp [join]

@[simp] theorem join_some_nil (p : Row) : join (some p) [] = [p] := rfl

@[simp] theorem glue_nil_left (b : List Row) : glue [] b = b := by
  simp [glue]

@[simp] theorem glue_singleton (p : Row) (b : List Row) : glue [p] b = join (some p) b := by
  simp [glue]

@[simp] theorem glue_cons_cons (p q : Row) (a b : List Row) :
    glue (p :: q :: a) b = p :: glue (q :: a) b := by
  simp [glue]

theorem join_some_cons_of_eq {p r : Row} (h : r.key = p.key) (b : List Row) :
    join (some p) (r :: b) = p.merge r :: b := by
  simp [join, h]

theorem join_some_cons_of_ne {p r : Row} (h : r.key ≠ p.key) (b : List Row) :
    join (some p) (r :: b) = p :: r :: b := by
  simp [join, h]

theorem join_merge_right {p q : Row} (h : q.key = p.key) (b : List Row) :
    join (some (p.merge q)) b = join (some p) (join (some q) b) := by
  have hmerge : (p.merge q).key = p.key := rfl
  rcases b with _ | ⟨r, b⟩
  · rw [join_some_nil, join_some_nil, join_some_cons_of_eq h]
  · by_cases hr : r.key = p.key
    · have hqr : (q.merge r).key = p.key := h
      rw [join_some_cons_of_eq (hr.trans hmerge.symm), join_some_cons_of_eq (hr.trans h.symm),
        join_some_cons_of_eq hqr]
      simp [Row.merge, List.append_assoc]
    · rw [join_some_cons_of_ne (by rwa [hmerge]), join_some_cons_of_ne (by rwa [h]),
        join_some_cons_of_eq h]

theorem join_glue (pending : Option Row) (a b : List Row) :
    join pending (glue a b) = glue (join pending a) b := by
  rcases pending with _ | p
  · simp
  rcases a with _ | ⟨q, _ | ⟨r, a⟩⟩
  · simp
  · by_cases hq : q.key = p.key
    · rw [glue_singleton, join_some_cons_of_eq hq, glue_singleton, join_merge_right hq]
    · rw [glue_singleton, join_some_cons_of_ne hq, glue_cons_cons, glue_singleton]
      rcases b with _ | ⟨r, b⟩
      · rw [join_some_nil, join_some_cons_of_ne hq]
      · by_cases hr : r.key = q.key
        · rw [join_some_cons_of_eq hr, join_some_cons_of_ne (by simpa [Row.merge] using hq)]
        · rw [join_some_cons_of_ne hr, join_some_cons_of_ne hq]
  · by_cases hq : q.key = p.key
    · rw [glue_cons_cons, join_some_cons_of_eq hq, join_some_cons_of_eq hq, glue_cons_cons]
    · rw [glue_cons_cons, join_some_cons_of_ne hq, join_some_cons_of_ne hq, glue_cons_cons,
        glue_cons_cons]

end Cursor

def rowsOf (family : Option Bytes) (cells : List ScanCell) : List Row :=
  (CellTable.grouped cells).map (rowOf family)

theorem rowsOf_cons (family : Option Bytes) (cell : ScanCell) (cells : List ScanCell) :
    rowsOf family (cell :: cells) =
      Cursor.join (some (rowOf family (cell.1, [cell.2]))) (rowsOf family cells) := by
  obtain ⟨key, column, value⟩ := cell
  simp only [rowsOf, CellTable.grouped]
  rcases CellTable.grouped cells with _ | ⟨⟨other, more⟩, rows⟩
  · rfl
  · by_cases hkey : other = key
    · subst hkey
      have hrow : (rowOf family (other, more)).key = (rowOf family (other, [(column, value)])).key :=
        rfl
      simp only [if_true, List.map_cons]
      rw [Cursor.join_some_cons_of_eq hrow]
      simp only [rowOf, Row.merge, List.filterMap_cons, List.filterMap_nil]
      cases CellSet.columnOf? family (column, value) <;> rfl
    · have hrow : (rowOf family (other, more)).key ≠ (rowOf family (key, [(column, value)])).key :=
        hkey
      simp only [if_neg hkey, List.map_cons]
      rw [Cursor.join_some_cons_of_ne hrow]

theorem rowsOf_append (family : Option Bytes) (a b : List ScanCell) :
    rowsOf family (a ++ b) = Cursor.glue (rowsOf family a) (rowsOf family b) := by
  induction a with
  | nil => simp [rowsOf, CellTable.grouped]
  | cons cell a ih =>
      rw [List.cons_append, rowsOf_cons, rowsOf_cons, ih, Cursor.join_glue]

namespace Cursor

/-- The rows that a cursor still hands out when some cells are left of its scan. -/
def toCome (c : Cursor) (cells : List ScanCell) : List Row :=
  c.keep (join c.pending (rowsOf c.family cells))

theorem keep_append (c : Cursor) (a b : List Row) : c.keep (a ++ b) = c.keep a ++ c.keep b := by
  simp [keep]

theorem toCome_append (c : Cursor) (page cells : List ScanCell) :
    c.toCome (page ++ cells) =
      (c.absorb (rowsOf c.family page)).1 ++ (c.absorb (rowsOf c.family page)).2.toCome cells := by
  have hglue : join c.pending (rowsOf c.family (page ++ cells)) =
      glue (join c.pending (rowsOf c.family page)) (rowsOf c.family cells) := by
    rw [rowsOf_append, join_glue]
  rw [toCome, hglue, glue, keep_append]
  rfl

end Cursor

def pageAnswer (page : List ScanCell) : Answer :=
  ⟨200, [], .value (CellSet.encode (CellTable.grouped page))⟩

theorem pages_eq_map (size : Nat) (cells : List ScanCell) :
    ∃ cut : List (List ScanCell),
      CellTable.pages size cells = cut.map CellTable.grouped ∧ cut.flatten = cells := by
  fun_induction CellTable.pages size cells with
  | case1 => exact ⟨[], rfl, rfl⟩
  | case2 cell rest ih =>
      obtain ⟨cut, hpages, hcells⟩ := ih
      refine ⟨(cell :: rest.take size) :: cut, ?_, ?_⟩
      · rw [hpages, List.map_cons]
      · rw [List.flatten_cons, hcells, List.cons_append, List.take_append_drop]

theorem answers_eq_map (t : CellTable) (scan : ScanRequest) :
    ∃ cut : List (List ScanCell),
      t.answers scan = cut.map pageAnswer ∧ cut.flatten = t.cells scan := by
  obtain ⟨cut, hpages, hcells⟩ := pages_eq_map (scan.batch - 1) (t.cells scan)
  refine ⟨cut, ?_, hcells⟩
  rw [CellTable.answers, hpages, List.map_map]
  rfl

theorem read_pageAnswer (family : Option Bytes) (page : List ScanCell) :
    (pageAnswer page).read >>= CellSet.read family = .ok (rowsOf family page) := by
  have hread : (pageAnswer page).read = .ok (CellSet.encode (CellTable.grouped page)) := rfl
  rw [hread]
  exact CellSet.read_encode family (CellTable.grouped page)

theorem Answer.check_of_plain {a : Answer} {asked : Address} (hwritable : a.unwritable? = none)
    (hpacked : a.isPacked = false) (hmove : a.isMove = false) (h : asked.isSendable = true) :
    a.check asked = .ok () := by
  simp only [Answer.check, hwritable, hpacked, hmove, h, Bool.false_and]
  rfl

theorem check_pageAnswer {asked : Address} (h : asked.isSendable = true) (page : List ScanCell) :
    (pageAnswer page).check asked = .ok () :=
  Answer.check_of_plain rfl rfl rfl h

namespace Cursor

/-- A cursor that is done holds nothing back, and nothing is left of its scan. -/
def Rests (c : Cursor) (cut : List (List ScanCell)) : Prop :=
  c.done = true → c.pending = none ∧ cut = []

/-- Calls for rows that a cursor can still be asked for, but for the last. -/
def callsLeft (c : Cursor) (cut : List (List ScanCell)) : Nat :=
  cut.length + if c.done then 0 else 1

end Cursor

/-- A turn of a cursor is right: it hands out the next of the rows to come, or there are none, and
it leaves a cursor on the rest of the scan. -/
structure Turn.IsRight (t : Cursor.Turn) (c : Cursor) (cut left : List (List ScanCell)) : Prop where
  location : t.cursor.location = c.location
  remains : t.left = left.map pageAnswer
  rests : t.cursor.Rests left
  handed : (t.result = .ok none ∧ c.toCome cut.flatten = []) ∨
    ∃ rows, t.result = .ok (some rows) ∧ rows ≠ [] ∧
      c.toCome cut.flatten = rows ++ t.cursor.toCome left.flatten ∧
      t.cursor.callsLeft left < c.callsLeft cut

namespace Cursor

theorem await_cons {asked : Address} (h : asked.isSendable = true) (c : Cursor) (before : Nat)
    (page : List ScanCell) (left : List Answer) :
    let out := c.absorb (rowsOf c.family page)
    let sent := [Event.request "GET" (String.ofList asked.target) none]
    c.await asked before (pageAnswer page :: left) =
      if out.1.isEmpty then (out.2.await asked 0 left).after sent
      else ⟨.ok (some out.1), out.2, left, sent⟩ := by
  have hthrottle : (pageAnswer page).isThrottle = false := rfl
  have hend : ¬(pageAnswer page).status = 204 := show ¬(200 : Int) = 204 by decide
  have hsuccess : (pageAnswer page).isSuccess = true := rfl
  simp only [await, check_pageAnswer h, hthrottle, hend, hsuccess, read_pageAnswer]
  rfl

theorem toCome_of_rests {c : Cursor} {cut : List (List ScanCell)} (h : c.Rests cut)
    (hdone : c.done = true) : c.toCome cut.flatten = [] := by
  obtain ⟨hpending, rfl⟩ := h hdone
  simp [toCome, hpending, rowsOf, CellTable.grouped, keep]

theorem exhaust_isRight (c : Cursor) (events : List Event) (hdone : c.done = false) :
    Turn.IsRight (c.exhaust [] events) c [] [] := by
  have hcome : c.toCome [] = c.keep c.pending.toList := by
    cases hpending : c.pending <;> simp [toCome, hpending, rowsOf, CellTable.grouped]
  rcases hpending : c.pending with _ | row
  · have hturn : c.exhaust [] events = ⟨.ok none, { c with done := true }, [], events⟩ := by
      simp [exhaust, finish, hpending]
    rw [hturn]
    refine ⟨rfl, rfl, fun _ => ⟨hpending, rfl⟩, .inl ⟨rfl, ?_⟩⟩
    rw [List.flatten_nil, hcome, hpending]
    rfl
  · let last : Cursor := { c with done := true, pending := none }
    have hturn : c.exhaust [] events =
        ⟨.ok (if (c.keep [row]).isEmpty then none else some (c.keep [row])), last, [], events⟩ := by
      simp [exhaust, finish, hpending, keep, last]
    have hrests : last.Rests [] := fun _ => ⟨rfl, rfl⟩
    rw [hturn]
    refine ⟨rfl, rfl, hrests, ?_⟩
    rw [List.flatten_nil, hcome, hpending]
    by_cases hkept : c.keep [row] = []
    · exact .inl ⟨by simp [hkept], hkept⟩
    · refine .inr ⟨c.keep [row], by simp [hkept], hkept, ?_, ?_⟩
      · have hlast : last.toCome [] = [] := toCome_of_rests hrests rfl
        rw [hlast, List.append_nil]
        rfl
      · simp [callsLeft, hdone, last]

theorem await_isRight {asked : Address} (h : asked.isSendable = true) (c : Cursor)
    (hdone : c.done = false) (before : Nat) (cut : List (List ScanCell)) :
    ∃ left, Turn.IsRight (c.await asked before (cut.map pageAnswer)) c cut left := by
  induction cut generalizing c before with
  | nil => exact ⟨[], exhaust_isRight c _ hdone⟩
  | cons page cut ih =>
      let out := c.absorb (rowsOf c.family page)
      have hcome : c.toCome (page ++ cut.flatten) = out.1 ++ out.2.toCome cut.flatten :=
        toCome_append c page cut.flatten
      have hfewer : out.2.callsLeft cut < c.callsLeft (page :: cut) := by
        have hsame : out.2.done = c.done := rfl
        simp only [callsLeft, hsame, List.length_cons]
        omega
      rw [List.map_cons, await_cons h]
      split
      · rename_i hempty
        obtain ⟨left, hright⟩ := ih out.2 hdone 0
        have hnil : out.1 = [] := List.isEmpty_iff.mp hempty
        rw [hnil, List.nil_append] at hcome
        refine ⟨left, hright.location, hright.remains, hright.rests, ?_⟩
        rw [List.flatten_cons, hcome]
        rcases hright.handed with hnone | ⟨rows, hresult, hrows, hsplit, hcalls⟩
        · exact .inl hnone
        · exact .inr ⟨rows, hresult, hrows, hsplit, Nat.lt_trans hcalls hfewer⟩
      · rename_i hempty
        have hout : out.1 ≠ [] := by simpa using hempty
        refine ⟨cut, rfl, rfl, fun hd => absurd (hdone.symm.trans hd) (by decide), .inr ?_⟩
        exact ⟨out.1, rfl, hout, hcome, hfewer⟩

/-- Each call for rows hands out the next of the rows to come. -/
theorem next_isRight {asked : Address} (h : asked.isSendable = true) (c : Cursor)
    (cut : List (List ScanCell)) (hrests : c.Rests cut) :
    ∃ left, Turn.IsRight (c.next asked (cut.map pageAnswer)) c cut left := by
  cases hdone : c.done with
  | false =>
      have hnext : c.next asked (cut.map pageAnswer) = c.await asked 0 (cut.map pageAnswer) := by
        simp [next, hdone]
      rw [hnext]
      exact await_isRight h c hdone 0 cut
  | true =>
      obtain ⟨hpending, rfl⟩ := hrests hdone
      have hnext : c.next asked [] = ⟨.ok none, c, [], []⟩ := by
        simp [next, hdone, finish, hpending]
      rw [List.map_nil, hnext]
      exact ⟨[], rfl, rfl, hrests, .inl ⟨rfl, toCome_of_rests hrests hdone⟩⟩

end Cursor

end RawSeries.Gateway
