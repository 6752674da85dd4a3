import RawSeries.Proofs.ByteOrder
import RawSeries.Proofs.TaskRuns
import RawSeries.Store.Memory

namespace RawSeries

/-- A query covers a row key: it lies between the bounds of the scan and is accepted. -/
def Query.covers (q : Query) (key : Bytes) : Bool :=
  match q.startRow, q.stopRow with
  | .ok first, .ok stop => !Bytes.before key first && Bytes.before key stop && q.accepts key
  | _, _ => false

theorem Query.selects_eq {q : Query} {first stop key : Bytes} {taken : Bool}
    (h : q.selects first stop key = .ok taken) :
    taken = (!Bytes.before key first && Bytes.before key stop && q.accepts key) := by
  unfold Query.selects Query.passes at h
  cases hfirst : Bytes.before key first with
  | true =>
      obtain rfl : false = taken := by simpa [hfirst] using h
      rfl
  | false =>
      cases hstop : Bytes.before key stop with
      | false =>
          obtain rfl : false = taken := by simpa [hfirst, hstop] using h
          rfl
      | true =>
          simp only [hfirst, hstop, Bool.not_true, Bool.or_self, Bool.false_eq_true, if_false] at h
          split at h
          · cases h
          · cases h
            rfl

namespace Memory

theorem selectedFrom_eq_filter {q : Query} {first stop : Bytes} {rows hits : List Row}
    (h : selectedFrom q first stop rows = .ok hits) :
    hits = rows.filter fun row =>
      !Bytes.before row.key first && Bytes.before row.key stop && q.accepts row.key := by
  induction rows generalizing hits with
  | nil =>
      cases h
      rfl
  | cons row rest ih =>
      rw [selectedFrom] at h
      cases htaken : q.selects first stop row.key with
      | error flaw => simp [htaken, bind, Except.bind] at h
      | ok taken =>
          cases hothers : selectedFrom q first stop rest with
          | error flaw => simp [htaken, hothers, bind, Except.bind] at h
          | ok others =>
              simp only [htaken, hothers, bind, Except.bind, pure, Except.pure] at h
              cases h
              rw [List.filter_cons, ← Query.selects_eq htaken, ih hothers]

theorem selected_eq_filter {q : Query} {rows hits : List Row} (h : selected q rows = .ok hits) :
    hits = rows.filter fun row => q.covers row.key := by
  unfold selected at h
  cases hfirst : q.startRow with
  | error flaw => simp [hfirst, bind, Except.bind] at h
  | ok first =>
      cases hstop : q.stopRow with
      | error flaw => simp [hfirst, hstop, bind, Except.bind] at h
      | ok stop =>
          simp only [hfirst, hstop, bind, Except.bind] at h
          rw [selectedFrom_eq_filter h]
          simp only [Query.covers, hfirst, hstop]

theorem pagesOf_flatten {α : Type} (size : Nat) (rows : List α) :
    (pagesOf size rows).flatten = rows := by
  induction rows using pagesOf.induct size with
  | case1 => simp [pagesOf]
  | case2 row rest ih =>
      rw [pagesOf, List.flatten_cons, ih, List.cons_append, List.take_append_drop]

theorem ne_nil_of_mem_pagesOf {α : Type} {size : Nat} {rows page : List α}
    (h : page ∈ pagesOf size rows) : page ≠ [] := by
  induction rows using pagesOf.induct size with
  | case1 => simp [pagesOf] at h
  | case2 row rest ih =>
      rw [pagesOf, List.mem_cons] at h
      rcases h with rfl | h
      · exact List.cons_ne_nil _ _
      · exact ih h

theorem length_le_flatten {α : Type} {pages : List (List α)} (h : ∀ page ∈ pages, page ≠ []) :
    pages.length ≤ pages.flatten.length := by
  induction pages with
  | nil => exact Nat.le_refl 0
  | cons page pages ih =>
      have hrest := ih fun other hother => h other (List.mem_cons_of_mem page hother)
      have hpage := List.length_pos_iff.mpr (h page List.mem_cons_self)
      rw [List.flatten_cons, List.length_append, List.length_cons]
      omega

theorem paged?_flatten {α : Type} {size : Int} {rows : List α} {pages : List (List α)}
    (hsize : 0 ≤ size) (h : paged? size rows = .ok pages) : pages.flatten = rows := by
  cases size with
  | ofNat n =>
      cases n with
      | zero => cases h
      | succ n =>
          cases h
          exact pagesOf_flatten n rows
  | negSucc n => cases hsize

theorem paged?_lengths {α : Type} {size : Int} {rows : List α} {pages : List (List α)}
    (h : paged? size rows = .ok pages) :
    pages.length ≤ pages.flatten.length ∧ pages.flatten.length ≤ rows.length := by
  cases size with
  | ofNat n =>
      cases n with
      | zero => cases h
      | succ n =>
          cases h
          constructor
          · apply length_le_flatten
            intro page hpage
            exact ne_nil_of_mem_pagesOf hpage
          · exact Nat.le_of_eq (congrArg List.length (pagesOf_flatten n rows))
  | negSucc n =>
      cases h
      exact ⟨Nat.le_refl _, Nat.zero_le _⟩

/-- The pages that a new cursor of a query hands out, if one can be opened. -/
def offered (m : Memory) (q : Query) : Except Fault (List (List Row)) :=
  if m.heldMetrics.contains q.metric then .error (.store (.openRefused q.metric))
  else ((selected q m.rows).bind (paged? m.pageSize)).mapError Fault.number

theorem offered_eq_ok {m : Memory} {q : Query} {pages : List (List Row)}
    (h : m.offered q = .ok pages) :
    ∃ hits, selected q m.rows = .ok hits ∧ paged? m.pageSize hits = .ok pages := by
  unfold offered at h
  split at h
  · cases h
  · cases hhits : selected q m.rows with
    | error flaw =>
        rw [hhits] at h
        cases h
    | ok hits =>
        rw [hhits] at h
        change (paged? m.pageSize hits).mapError Fault.number = _ at h
        cases hpages : paged? m.pageSize hits with
        | error flaw =>
            rw [hpages] at h
            cases h
        | ok others =>
            rw [hpages] at h
            cases h
            exact ⟨hits, rfl, hpages⟩

theorem offered_lengths {m : Memory} {q : Query} {pages : List (List Row)}
    (h : m.offered q = .ok pages) :
    pages.length ≤ pages.flatten.length ∧ pages.flatten.length ≤ m.rows.length := by
  obtain ⟨hits, hhits, hpages⟩ := offered_eq_ok h
  obtain ⟨hcount, hrows⟩ := paged?_lengths hpages
  refine ⟨hcount, Nat.le_trans hrows ?_⟩
  rw [selected_eq_filter hhits]
  exact List.length_filter_le _ _

/-- The pages that are offered hold the covered rows, unless pages have less than no rows. -/
theorem offered_flatten {m : Memory} {q : Query} {pages : List (List Row)}
    (hsize : 0 ≤ m.pageSize) (h : m.offered q = .ok pages) :
    pages.flatten = m.rows.filter fun row => q.covers row.key := by
  obtain ⟨hits, hhits, hpages⟩ := offered_eq_ok h
  rw [paged?_flatten hsize hpages, selected_eq_filter hhits]

theorem offered_of_held {m : Memory} {q : Query} (h : m.heldMetrics.contains q.metric = true) :
    m.offered q = .error (.store (.openRefused q.metric)) :=
  if_pos h

theorem offered_of_flaw {m : Memory} {q : Query} {flaw : NumberFlaw}
    (h : m.heldMetrics.contains q.metric = false) (hscan : selected q m.rows = .error flaw) :
    m.offered q = .error (.number flaw) := by
  simp only [offered, h, hscan, Bool.false_eq_true, if_false]
  rfl

theorem offered_of_selected {m : Memory} {q : Query} {hits : List Row} (hsize : 0 < m.pageSize)
    (h : m.heldMetrics.contains q.metric = false) (hscan : selected q m.rows = .ok hits) :
    ∃ pages, m.offered q = .ok pages ∧ pages.flatten = hits := by
  match hpage : m.pageSize, hsize with
  | .ofNat (n + 1), _ =>
      refine ⟨pagesOf n hits, ?_, pagesOf_flatten n hits⟩
      simp only [offered, h, hscan, hpage, Bool.false_eq_true, if_false]
      rfl

theorem openScan_run (q : Query) (m : Memory) :
    (openScan q).run.run m =
      match m.offered q with
      | .ok pages => (.ok ⟨m.closes.length, pages⟩, { m with closes := m.closes ++ [0] })
      | .error f => (.error f, m) := by
  rw [openScan, Task.get_bind_run]
  by_cases hheld : m.heldMetrics.contains q.metric = true
  · simp only [offered, hheld, if_true]
    rfl
  · simp only [offered, hheld, Bool.false_eq_true, if_false]
    cases hpages : (selected q m.rows).bind (paged? m.pageSize) with
    | error flaw => rfl
    | ok pages => rfl

theorem delete_run (key : Bytes) (m : Memory) :
    (delete key).run.run m =
      if m.heldKeys.contains key then (.error (.store (.deleteRefused key)), m)
      else (.ok (), { m with
        rows := m.rows.filter (·.key != key)
        deleted := m.deleted ++ [key] }) := by
  rw [delete, Task.get_bind_run]
  by_cases hheld : m.heldKeys.contains key = true
  · simp only [hheld, if_true]
    rfl
  · simp only [hheld, Bool.false_eq_true, if_false]
    rfl

/-- The rows that are left when those with the keys of some rows are deleted. -/
def without (gone rows : List Row) : List Row :=
  rows.filter fun row => !(gone.map Row.key).contains row.key

theorem without_nil (rows : List Row) : without [] rows = rows := by
  simp [without]

theorem without_append (gone more rows : List Row) :
    without (gone ++ more) rows = without more (without gone rows) := by
  simp only [without, List.filter_filter, List.map_append, List.contains_append, Bool.not_or]
  congr 1
  funext row
  exact Bool.and_comm _ _

theorem filter_key_ne (row : Row) (rows : List Row) :
    rows.filter (·.key != row.key) = without [row] rows := by
  unfold without
  congr 1
  funext other
  by_cases hsame : other.key = row.key
  · simp [hsame]
  · simp [hsame]

/-- The keys of some rows strictly ascend. -/
def Ordered (rows : List Row) : Prop :=
  rows.Pairwise fun a b => Bytes.before a.key b.key = true

theorem mem_insertRow {row other : Row} {rows : List Row} (h : other ∈ insertRow row rows) :
    other = row ∨ other ∈ rows := by
  induction rows with
  | nil => exact .inl (by simpa [insertRow] using h)
  | cons first rest ih =>
      unfold insertRow at h
      split at h
      · rcases List.mem_cons.mp h with rfl | h
        · exact .inl rfl
        · exact .inr (List.mem_cons_of_mem first h)
      · split at h
        · exact List.mem_cons.mp h
        · rcases List.mem_cons.mp h with rfl | h
          · exact .inr List.mem_cons_self
          · exact (ih h).imp_right (List.mem_cons_of_mem first)

theorem insertRow_ordered {row : Row} {rows : List Row} (h : Ordered rows) :
    Ordered (insertRow row rows) := by
  induction rows with
  | nil => exact List.pairwise_singleton _ row
  | cons first rest ih =>
      obtain ⟨hfirst, hrest⟩ := List.pairwise_cons.mp h
      unfold insertRow
      split
      case isTrue hsame =>
          refine List.pairwise_cons.mpr ⟨?_, hrest⟩
          rw [← hsame]
          exact hfirst
      case isFalse hne =>
          split
          case isTrue hbefore =>
              refine List.pairwise_cons.mpr ⟨?_, h⟩
              intro other hother
              rcases List.mem_cons.mp hother with rfl | hother
              · exact hbefore
              · exact Bytes.before_trans hbefore (hfirst other hother)
          case isFalse hbefore =>
              refine List.pairwise_cons.mpr ⟨?_, ih hrest⟩
              intro other hother
              rcases mem_insertRow hother with rfl | hother
              · exact Bytes.before_of_ne (Bool.eq_false_iff.mpr hbefore) hne
              · exact hfirst other hother

theorem ofRows_ordered (rows : List Row) (pageSize : Int) :
    Ordered (ofRows rows pageSize).rows := by
  have hfold : ∀ table, Ordered table →
      Ordered (rows.foldl (fun table row => insertRow row table) table) := by
    induction rows with
    | nil =>
        intro table h
        exact h
    | cons row rest ih =>
        intro table h
        exact ih _ (insertRow_ordered h)
  exact hfold [] List.Pairwise.nil

end Memory

end RawSeries
