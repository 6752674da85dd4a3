import RawSeries.Proofs.SweepSteps

/-!
The account of a deleting sweep for one query: what its scan hands out is fixed when the scan is
opened, and of these rows exactly those before the first one that is held are deleted.
-/

namespace RawSeries

/-- A query covers a row key, and pages are long enough for rows. -/
def Query.reaches (q : Query) (pageSize : Int) (key : Bytes) : Bool :=
  decide (0 < pageSize) && q.covers key

namespace Memory

/-- All rows that a scan hands out when it is opened now. -/
def handsOut (m : Memory) (q : Query) : Except Fault (List Row) :=
  (m.offered q).map List.flatten

theorem selectedFrom_of_plain {q : Query} (hplain : q.filters = []) (first stop : Bytes)
    (rows : List Row) :
    selectedFrom q first stop rows = .ok (rows.filter fun row =>
      !Bytes.before row.key first && Bytes.before row.key stop && q.accepts row.key) := by
  induction rows with
  | nil => rfl
  | cons row rest ih =>
      have htaken : ∃ taken, q.selects first stop row.key = .ok taken := by
        unfold Query.selects Query.passes
        rw [hplain]
        split
        · exact ⟨_, rfl⟩
        · exact ⟨_, if_neg (by simp)⟩
      obtain ⟨taken, htaken⟩ := htaken
      rw [selectedFrom, htaken, ih, List.filter_cons, ← Query.selects_eq htaken]
      rfl

theorem selected_of_plain {q : Query} (hplain : q.filters = []) (rows : List Row) :
    selected q rows = q.startRow.bind fun _ => q.stopRow.bind fun _ =>
      .ok (rows.filter fun row => q.covers row.key) := by
  unfold selected Query.covers
  cases hfirst : q.startRow with
  | error flaw => rfl
  | ok first =>
      cases hstop : q.stopRow with
      | error flaw => rfl
      | ok stop => exact selectedFrom_of_plain hplain first stop rows

theorem paged?_map_flatten {α : Type} (size : Int) (rows : List α) :
    (paged? size rows).map List.flatten =
      if size = 0 then .error .noStep else .ok (rows.filter fun _ => decide (0 < size)) := by
  match size with
  | .ofNat 0 => rfl
  | .ofNat (n + 1) =>
      have hpos : (0 : Int) < Int.ofNat (n + 1) := Int.natCast_succ_pos n
      rw [if_neg (by omega), List.filter_eq_self.mpr fun row _ => decide_eq_true hpos]
      exact congrArg Except.ok (pagesOf_flatten n rows)
  | .negSucc n =>
      have hneg : ¬(0 : Int) < Int.negSucc n := by omega
      rw [if_neg (by omega), List.filter_eq_nil_iff.mpr fun row _ => by simp [hneg]]
      rfl

theorem handsOut_of_plain {q : Query} (hplain : q.filters = []) (m : Memory) :
    m.handsOut q =
      if m.heldMetrics.contains q.metric then .error (.store (.openRefused q.metric))
      else (q.startRow.bind fun _ => q.stopRow.bind fun _ =>
          if m.pageSize = 0 then .error .noStep
          else .ok (m.rows.filter fun row => q.reaches m.pageSize row.key)).mapError
        Fault.number := by
  unfold handsOut offered
  split
  · rfl
  · rw [selected_of_plain hplain]
    cases q.startRow with
    | error flaw => rfl
    | ok first =>
        cases q.stopRow with
        | error flaw => rfl
        | ok stop =>
            have hpaged := paged?_map_flatten m.pageSize (m.rows.filter fun row => q.covers row.key)
            rw [List.filter_filter] at hpaged
            change ((paged? m.pageSize (m.rows.filter _)).mapError Fault.number).map List.flatten =
              (ite _ _ _ : Except NumberFlaw _).mapError Fault.number
            unfold Query.reaches
            rw [← hpaged]
            cases paged? m.pageSize (m.rows.filter fun row => q.covers row.key) with
            | error flaw => rfl
            | ok pages => rfl

theorem handsOut_congr {q : Query} (hplain : q.filters = []) {m m' : Memory}
    (hmetrics : m'.heldMetrics = m.heldMetrics) (hsize : m'.pageSize = m.pageSize)
    (hrows : (m'.rows.filter fun row => q.reaches m.pageSize row.key) =
      m.rows.filter fun row => q.reaches m.pageSize row.key) : m'.handsOut q = m.handsOut q := by
  rw [handsOut_of_plain hplain, handsOut_of_plain hplain, hmetrics, hsize, hrows]

/-- What is known of the rows that a scan hands out, from the rows of the table and those that are
left. -/
def Scanned (m : Memory) (rows : List Row) (q : Query) : Except Fault (List Row) → Prop
  | .error _ => m.heldMetrics.contains q.metric = false → ∀ key, q.reaches m.pageSize key = false
  | .ok hits => (∀ row ∈ hits, q.reaches m.pageSize row.key = true) ∧
      ∀ row ∈ rows, q.reaches m.pageSize row.key = true → row ∈ hits

theorem scanned_handsOut {q : Query} (hplain : q.filters = []) (m : Memory) :
    m.Scanned m.rows q (m.handsOut q) := by
  have hcovers : ∀ flaw, q.startRow = .error flaw ∨ q.stopRow = .error flaw →
      ∀ key, q.reaches m.pageSize key = false := by
    rintro flaw hflaw key
    have hcover : q.covers key = false := by
      unfold Query.covers
      rcases hflaw with hflaw | hflaw
      · rw [hflaw]
      · rw [hflaw]
        cases q.startRow with
        | error flaw => rfl
        | ok first => rfl
    rw [Query.reaches, hcover, Bool.and_false]
  rw [handsOut_of_plain hplain]
  split
  · rename_i hheld
    intro hfree
    rw [hheld] at hfree
    cases hfree
  · cases hfirst : q.startRow with
    | error flaw => exact fun _ => hcovers flaw (.inl hfirst)
    | ok first =>
        cases hstop : q.stopRow with
        | error flaw => exact fun _ => hcovers flaw (.inr hstop)
        | ok stop =>
            by_cases hsize : m.pageSize = 0
            · simp only [Except.bind, hsize, if_true]
              intro _ key
              simp [Query.reaches, hsize]
            · simp only [Except.bind, hsize, if_false]
              constructor
              · intro row hrow
                exact (List.mem_filter.mp hrow).2
              · intro row hrow hreaches
                exact List.mem_filter.mpr ⟨hrow, hreaches⟩

/-- What becomes of the rows that are handed out: those before the first one that is held are
deleted. -/
def fate (held : List Bytes) : Except Fault (List Row) → List Row × Except Fault Nat
  | .error f => ([], .error f)
  | .ok hits =>
      (hits.takeWhile fun row => !held.contains row.key,
        match hits.dropWhile fun row => !held.contains row.key with
        | [] => .ok hits.length
        | row :: _ => .error (.store (.deleteRefused row.key)))

section Fate

variable {held : List Bytes} {handled rest : List Row} {row : Row}

theorem fate_whole (h : ∀ row ∈ handled, held.contains row.key = false) :
    fate held (.ok handled) = (handled, .ok handled.length) := by
  have hfree : ∀ row ∈ handled, (!held.contains row.key) = true := by
    intro row hrow
    rw [h row hrow]
    rfl
  have hall := List.append_nil handled
  rw [fate, ← hall, List.takeWhile_append_of_pos hfree, List.dropWhile_append_of_pos hfree]
  simp

theorem fate_held (h : ∀ row ∈ handled, held.contains row.key = false)
    (hheld : held.contains row.key = true) :
    fate held (.ok (handled ++ row :: rest)) =
      (handled, .error (.store (.deleteRefused row.key))) := by
  have hfree : ∀ row ∈ handled, (!held.contains row.key) = true := by
    intro row hrow
    rw [h row hrow]
    rfl
  rw [fate, List.takeWhile_append_of_pos hfree, List.dropWhile_append_of_pos hfree,
    List.takeWhile_cons, List.dropWhile_cons, hheld]
  simp

theorem fate_ok {hits : List Row} {touched : Nat}
    (h : fate held (.ok hits) = (handled, .ok touched)) :
    handled = hits ∧ touched = hits.length := by
  obtain ⟨hhandled, hresult⟩ := Prod.mk.inj h
  have happend : (hits.takeWhile fun row => !held.contains row.key) ++
      (hits.dropWhile fun row => !held.contains row.key) = hits :=
    List.takeWhile_append_dropWhile
  cases hdrop : hits.dropWhile fun row => !held.contains row.key with
  | nil =>
      rw [hdrop] at hresult happend
      rw [List.append_nil] at happend
      exact ⟨hhandled.symm.trans happend, (Except.ok.inj hresult).symm⟩
  | cons row rest =>
      rw [hdrop] at hresult
      cases hresult

end Fate

/-- Some rows are gone from the table, one after the other, and nothing else has changed but cursors
and records. -/
structure Loses (m m' : Memory) (gone : List Row) : Prop where
  rows : m'.rows = without gone m.rows
  deleted : m'.deleted = m.deleted ++ gone.map Row.key
  heldKeys : m'.heldKeys = m.heldKeys
  heldMetrics : m'.heldMetrics = m.heldMetrics
  heldRecords : m'.heldRecords = m.heldRecords
  pageSize : m'.pageSize = m.pageSize

theorem Loses.refl (m : Memory) : m.Loses m [] :=
  ⟨(without_nil m.rows).symm, by simp, rfl, rfl, rfl, rfl⟩

theorem Loses.trans {m m' m'' : Memory} {gone more : List Row} (h : m.Loses m' gone)
    (h' : m'.Loses m'' more) : m.Loses m'' (gone ++ more) where
  rows := by rw [h'.rows, h.rows, without_append]
  deleted := by rw [h'.deleted, h.deleted, List.append_assoc, List.map_append]
  heldKeys := h'.heldKeys.trans h.heldKeys
  heldMetrics := h'.heldMetrics.trans h.heldMetrics
  heldRecords := h'.heldRecords.trans h.heldRecords
  pageSize := h'.pageSize.trans h.pageSize

theorem handsOut_of_loses {q : Query} (hplain : q.filters = []) {m m' : Memory} {gone : List Row}
    (h : m.Loses m' gone) (hothers : ∀ row ∈ gone, q.reaches m.pageSize row.key = false) :
    m'.handsOut q = m.handsOut q := by
  apply handsOut_congr hplain h.heldMetrics h.pageSize
  rw [h.rows, without, List.filter_filter]
  apply List.filter_congr
  intro row _
  cases hgone : (gone.map Row.key).contains row.key with
  | false => simp
  | true =>
      obtain ⟨other, hother, hkey⟩ := List.mem_map.mp (List.contains_iff_mem.mp hgone)
      rw [← hkey, hothers other hother]
      rfl

theorem without_perm {gone gone' : List Row} (h : gone.Perm gone') (rows : List Row) :
    without gone rows = without gone' rows := by
  unfold without
  congr 1
  funext row
  congr 1
  rw [Bool.eq_iff_iff, List.contains_iff_mem, List.contains_iff_mem]
  exact (h.map Row.key).mem_iff

end Memory

namespace Sweep

def Phase.opens (m : Memory) : Phase Memory.Cursor → Option (Except Fault (List Row))
  | .opening (q :: _) => some (m.handsOut q)
  | _ => none

def Phase.rids {γ : Type} : Phase γ → Phase γ → List Row
  | .handling _ (row :: _) _, .handling .. => [row]
  | _, _ => []

/-- Some rows of a scan have been deleted and are not held, and some are still to come. -/
structure Underway (held : List Bytes) (offer : Option (Except Fault (List Row)))
    (handled : List Row) (begun : Nat) (pending : List Row) : Prop where
  offer : offer = some (.ok (handled ++ pending))
  free : ∀ row ∈ handled, held.contains row.key = false
  begun : begun = handled.length

/-- The rows of a scan have met their fate. -/
def Ends (held : List Bytes) (offer : Option (Except Fault (List Row))) (handled : List Row)
    (result : Except Fault Nat) : Prop :=
  ∃ hits, offer = some hits ∧ Memory.fate held hits = (handled, result)

/-- What holds in each phase of a deleting sweep for one query, of what its scan hands out, of the
rows that were deleted and of the number of those that were begun. -/
def Drains (held : List Bytes) (q : Query) (offer : Option (Except Fault (List Row)))
    (handled : List Row) (begun : Nat) : Phase Memory.Cursor → Prop
  | .opening [] => Underway held offer handled begun []
  | .opening (first :: queries) =>
      first = q ∧ queries = [] ∧ offer = none ∧ handled = [] ∧ begun = 0
  | .fetching cursor queries =>
      queries = [] ∧ Underway held offer handled begun cursor.pages.flatten
  | .handling cursor page queries =>
      queries = [] ∧ Underway held offer handled begun (page ++ cursor.pages.flatten)
  | .closing _ none queries => queries = [] ∧ Underway held offer handled begun []
  | .closing _ (some f) _ => Ends held offer handled (.error f)
  | .ended result => Ends held offer handled result

theorem Underway.handled {held : List Bytes} {offer : Option (Except Fault (List Row))}
    {handled pending : List Row} {begun : Nat} (h : Underway held offer handled begun pending)
    {row : Row} (hrow : row ∈ handled) : ∃ hits, offer = some (.ok hits) ∧ row ∈ hits :=
  ⟨_, h.offer, List.mem_append_left _ hrow⟩

theorem Ends.handled {held : List Bytes} {offer : Option (Except Fault (List Row))}
    {handled : List Row} {result : Except Fault Nat} (h : Ends held offer handled result)
    {row : Row} (hrow : row ∈ handled) : ∃ hits, offer = some (.ok hits) ∧ row ∈ hits := by
  obtain ⟨hits, hoffer, hfate⟩ := h
  cases hits with
  | error f =>
      cases hfate
      cases hrow
  | ok hits =>
      obtain ⟨rfl, -⟩ := Prod.mk.inj hfate
      exact ⟨hits, hoffer, (List.takeWhile_prefix _).subset hrow⟩

section Moves

variable {o : Options} {d : Directory (Except Fault)} {s s' : State Memory.Cursor} {m m' : Memory}

theorem Moves.loses (h : Moves o d s m s' m') (hdelete : o.delete = true) :
    m.Loses m' (s.phase.rids s'.phase) := by
  cases h with
  | handle hphase _ hnext _ _ _ =>
      rw [hphase, hnext, Options.rid, if_pos hdelete]
      exact ⟨rfl, rfl, rfl, rfl, rfl, rfl⟩
  | begin hphase _ hnext _ =>
      rw [hphase]
      exact ⟨(Memory.without_nil m.rows).symm, (List.append_nil _).symm, rfl, rfl, rfl, rfl⟩
  | close hphase _ _ =>
      rw [hphase]
      exact ⟨(Memory.without_nil m.rows).symm, (List.append_nil _).symm, rfl, rfl, rfl, rfl⟩
  | abort hphase _ _ =>
      rw [hphase]
      exact ⟨(Memory.without_nil m.rows).symm, (List.append_nil _).symm, rfl, rfl, rfl, rfl⟩
  | unreadable hphase _ hnext _ _ =>
      rw [hphase, hnext]
      exact .refl m
  | held hphase _ _ _ hnext _ _ =>
      rw [hphase, hnext]
      exact .refl m
  | finish hphase _ _ | refuse hphase _ _ _ | fetch hphase _ _ | exhaust hphase _ _
  | turn hphase _ _ | rest hphase _ _ =>
      rw [hphase]
      exact .refl m

/-- Every move of a sweep that deletes and does not print keeps the account of its scan. -/
theorem Drains.move {q : Query} {offer : Option (Except Fault (List Row))} {handled : List Row}
    (hmoves : Moves o d s m s' m') (hquiet : o.quiet = true) (hdelete : o.delete = true)
    (h : Drains m.heldKeys q offer handled s.rows s.phase) :
    Drains m.heldKeys q ((s.phase.opens m).or offer) (handled ++ s.phase.rids s'.phase) s'.rows
      s'.phase := by
  cases hmoves with
  | finish hphase hnext _ =>
      rw [hphase] at h ⊢
      rw [hnext, h.begun]
      refine ⟨_, h.offer, ?_⟩
      simp only [Phase.rids, List.append_nil]
      exact Memory.fate_whole h.free
  | refuse hphase hoffer hnext _ =>
      rw [hphase] at h ⊢
      obtain ⟨rfl, -, -, rfl, -⟩ := h
      rw [hnext]
      refine ⟨_, rfl, ?_⟩
      rw [Memory.handsOut, hoffer]
      rfl
  | begin hphase hoffer hnext hkept =>
      rw [hphase] at h ⊢
      obtain ⟨rfl, hqueries, -, rfl, hbegun⟩ := h
      rw [hnext, hkept.rows]
      refine ⟨hqueries, ?_, ?_, hbegun⟩
      · simp only [Phase.opens, Memory.handsOut, hoffer]
        rfl
      · intro row hrow
        cases hrow
  | unreadable hphase hprint _ _ _ =>
      rw [Options.printing, if_pos hquiet] at hprint
      cases hprint
  | held hphase _ _ hheld hnext _ _ =>
      rw [hphase] at h ⊢
      obtain ⟨-, hawaits⟩ := h
      rw [hnext]
      refine ⟨_, hawaits.offer, ?_⟩
      simp only [Phase.rids, List.append_nil]
      exact Memory.fate_held hawaits.free hheld
  | @handle cursor row page queries printed hphase _ hnext hrows _ hfree =>
      -- One row goes over from those to come to those that were deleted.
      rw [hphase] at h ⊢
      obtain ⟨hqueries, hawaits⟩ := h
      rw [hnext, hrows]
      refine ⟨hqueries, ?_, ?_, ?_⟩
      · simp [Phase.opens, Phase.rids, hawaits.offer]
      · intro other hother
        rcases List.mem_append.mp hother with hother | hother
        · exact hawaits.free other hother
        · rw [List.mem_singleton.mp hother]
          exact hfree hdelete
      · rw [List.length_append, hawaits.begun]
        rfl
  | fetch hphase hnext hkept | exhaust hphase hnext hkept | turn hphase hnext hkept =>
      rw [hphase] at h ⊢
      rw [hnext, hkept.rows]
      simp only [Phase.opens, Phase.rids, Option.none_or, List.append_nil]
      exact h
  | close hphase hnext hkept =>
      rw [hphase] at h ⊢
      obtain ⟨rfl, hawaits⟩ := h
      rw [hnext, hkept.rows]
      simp only [Phase.opens, Phase.rids, Option.none_or, List.append_nil]
      exact hawaits
  | abort hphase hnext _ | rest hphase hnext _ =>
      rw [hphase] at h ⊢
      rw [hnext]
      simp only [Phase.opens, Phase.rids, Option.none_or, List.append_nil]
      exact h

/-- At the end of a sweep the rows of its scan have met their fate, whatever step comes. -/
theorem Drains.ends {held : List Bytes} {q : Query} {offer : Option (Except Fault (List Row))}
    {handled : List Row} {begun : Nat} {r : Except Fault Nat}
    (h : Drains held q offer handled begun s.phase) (hresult : s.result? = some r) :
    Ends held ((s.phase.opens m).or offer) (handled ++ []) r := by
  rw [State.result?_eq_some.mp hresult] at h ⊢
  rw [List.append_nil]
  exact h

theorem Drains.handled {held : List Bytes} {q : Query} {offer : Option (Except Fault (List Row))}
    {handled : List Row} {begun : Nat} {phase : Phase Memory.Cursor}
    (h : Drains held q offer handled begun phase) {row : Row} (hrow : row ∈ handled) :
    ∃ hits, offer = some (.ok hits) ∧ row ∈ hits := by
  cases phase with
  | opening queries =>
      cases queries with
      | nil => exact Underway.handled h hrow
      | cons first queries =>
          obtain ⟨-, -, -, rfl, -⟩ := h
          cases hrow
  | fetching cursor queries => exact h.2.handled hrow
  | handling cursor page queries => exact h.2.handled hrow
  | closing cursor failure queries =>
      cases failure with
      | none => exact h.2.handled hrow
      | some f => exact Ends.handled h hrow
  | ended result => exact Ends.handled h hrow

end Moves

end Sweep

open Sweep (Moves Drains) in
theorem Memory.sweep_loses (uids : UidTable) {o : Sweep.Options} (hquiet : o.quiet = true)
    (hdelete : o.delete = true) {q : Query} (hplain : q.filters = []) (m : Memory) :
    ∃ s m', (sweep uids.directory o [q]).run m = (s, m') ∧
      s.result? = some (fate m.heldKeys (m.handsOut q)).2 ∧
      m.Loses m' (fate m.heldKeys (m.handsOut q)).1 := by
  have hmove : ∀ s m₁ s' m₂, (∃ offer handled, m.Loses m₁ handled ∧
        Drains m.heldKeys q offer handled s.rows s.phase ∧
        ∀ hits, offer = some hits → hits = m.handsOut q) →
      Moves o uids.directory s m₁ s' m₂ →
      ∃ offer handled, m.Loses m₂ handled ∧
        Drains m.heldKeys q offer handled s'.rows s'.phase ∧
        ∀ hits, offer = some hits → hits = m.handsOut q := by
    rintro s m₁ s' m₂ ⟨offer, handled, hloses, hdrains, hoffer⟩ hmoves
    have hnext := Drains.move hmoves hquiet hdelete (hloses.heldKeys ▸ hdrains)
    rw [hloses.heldKeys] at hnext
    refine ⟨_, _, hloses.trans (hmoves.loses hdelete), hnext, ?_⟩
    intro hits hhits
    rcases Option.or_eq_some_iff.mp hhits with hopens | ⟨-, hearlier⟩
    · unfold Sweep.Phase.opens at hopens
      split at hopens
      · rename_i first later hphase
        rw [hphase] at hdrains
        obtain ⟨rfl, -, -, rfl, -⟩ := hdrains
        rw [← Option.some.inj hopens, handsOut_of_loses hplain hloses nofun]
      · cases hopens
    · exact hoffer hits hearlier
  have hstart : ∃ offer handled, m.Loses m handled ∧
      Drains m.heldKeys q offer handled (Sweep.start o [q] : Sweep.State Cursor).rows
        (Sweep.start o [q]).phase ∧ ∀ hits, offer = some hits → hits = m.handsOut q :=
    ⟨none, [], .refl m, ⟨rfl, rfl, rfl, rfl, rfl⟩, nofun⟩
  obtain ⟨s, m', result, hrun, hphase, offer, handled, hloses, hdrains, hoffer⟩ :=
    Sweep.run_ends (o := o) (d := uids.directory) hmove hstart (Nat.le_refl m.rows.length)
      (Nat.le_refl _)
  rw [hphase] at hdrains
  obtain ⟨hits, hhits, hfate⟩ := hdrains
  rw [← hoffer hits hhits, hfate]
  refine ⟨s, m', ?_, Sweep.State.result?_eq_some.mpr hphase, hloses⟩
  rw [UidTable.directory_eq_lift]
  exact hrun

end RawSeries
