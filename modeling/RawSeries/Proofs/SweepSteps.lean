import RawSeries.Proofs.MemoryScan
import RawSeries.Proofs.PlainLookups
import RawSeries.Store.Purging

namespace RawSeries.Sweep

variable {γ : Type}

/-- Whatever a sweep does but its reports of progress, which depend on the clock. -/
def Event.isDeed : Event → Bool
  | .progress .. => false
  | _ => true

def State.deeds (s : State γ) : List Event :=
  s.events.filter Event.isDeed

def Options.printing (o : Options) (d : Directory (Except Fault)) (row : Row) :
    Except Fault (List Event) :=
  if o.quiet then .ok []
  else (row.report o.style d o.layout).map fun text => [.wrote text, .flushed]

def Options.deletion (o : Options) (row : Row) : List Event :=
  if o.delete then [.deleted row.key] else []

/-- The memory when a row is deleted, in sweeps that delete. -/
def Options.rid (o : Options) (row : Row) (m : Memory) : Memory :=
  if o.delete then
    { m with rows := Memory.without [row] m.rows, deleted := m.deleted ++ [row.key] }
  else m

theorem State.result?_eq_some {s : State γ} {result : Except Fault Nat} :
    s.result? = some result ↔ s.phase = .ended result := by
  unfold result?
  cases s.phase with
  | ended other => simp
  | _ => simp

/-- Two states agree on the rows that were begun and on what was done. -/
structure State.Keeps (s s' : State γ) : Prop where
  rows : s'.rows = s.rows
  deeds : s'.deeds = s.deeds

/-- The ways in which a sweep goes on from a state `s`, with a table in memory. -/
inductive Moves (o : Options) (d : Directory (Except Fault)) (s : State Memory.Cursor)
    (m : Memory) (s' : State Memory.Cursor) : Memory → Prop where
  | finish (hphase : s.phase = .opening []) (hnext : s'.phase = .ended (.ok s.rows))
      (hkept : s.Keeps s') : Moves o d s m s' m
  | refuse {q : Query} {queries : List Query} {f : Fault}
      (hphase : s.phase = .opening (q :: queries)) (hoffer : m.offered q = .error f)
      (hnext : s'.phase = .ended (.error f)) (hkept : s.Keeps s') : Moves o d s m s' m
  | begin {q : Query} {queries : List Query} {pages : List (List Row)}
      (hphase : s.phase = .opening (q :: queries)) (hoffer : m.offered q = .ok pages)
      (hnext : s'.phase = .fetching ⟨m.closes.length, pages⟩ queries) (hkept : s.Keeps s') :
      Moves o d s m s' { m with closes := m.closes ++ [0] }
  | fetch {number : Nat} {page : List Row} {pages : List (List Row)} {queries : List Query}
      (hphase : s.phase = .fetching ⟨number, page :: pages⟩ queries)
      (hnext : s'.phase = .handling ⟨number, pages⟩ page queries) (hkept : s.Keeps s') :
      Moves o d s m s' m
  | exhaust {number : Nat} {queries : List Query}
      (hphase : s.phase = .fetching ⟨number, []⟩ queries)
      (hnext : s'.phase = .closing ⟨number, []⟩ none queries) (hkept : s.Keeps s') :
      Moves o d s m s' m
  | turn {cursor : Memory.Cursor} {queries : List Query}
      (hphase : s.phase = .handling cursor [] queries)
      (hnext : s'.phase = .fetching cursor queries) (hkept : s.Keeps s') : Moves o d s m s' m
  | unreadable {cursor : Memory.Cursor} {row : Row} {page : List Row} {queries : List Query}
      {f : Fault} (hphase : s.phase = .handling cursor (row :: page) queries)
      (hprint : o.printing d row = .error f)
      (hnext : s'.phase = .closing cursor (some f) queries)
      (hrows : s'.rows = s.rows + 1) (hdeeds : s'.deeds = s.deeds) : Moves o d s m s' m
  | held {cursor : Memory.Cursor} {row : Row} {page : List Row} {queries : List Query}
      {printed : List Event} (hphase : s.phase = .handling cursor (row :: page) queries)
      (hprint : o.printing d row = .ok printed) (hdelete : o.delete = true)
      (hheld : m.heldKeys.contains row.key = true)
      (hnext : s'.phase = .closing cursor (some (.store (.deleteRefused row.key))) queries)
      (hrows : s'.rows = s.rows + 1) (hdeeds : s'.deeds = s.deeds ++ printed) :
      Moves o d s m s' m
  | handle {cursor : Memory.Cursor} {row : Row} {page : List Row} {queries : List Query}
      {printed : List Event} (hphase : s.phase = .handling cursor (row :: page) queries)
      (hprint : o.printing d row = .ok printed)
      (hnext : s'.phase = .handling cursor page queries) (hrows : s'.rows = s.rows + 1)
      (hdeeds : s'.deeds = s.deeds ++ (printed ++ o.deletion row))
      (hfree : o.delete = true → m.heldKeys.contains row.key = false) :
      Moves o d s m s' (o.rid row m)
  | close {cursor : Memory.Cursor} {queries : List Query}
      (hphase : s.phase = .closing cursor none queries) (hnext : s'.phase = .opening queries)
      (hkept : s.Keeps s') :
      Moves o d s m s' { m with closes := m.closes.modify cursor.number (· + 1) }
  | abort {cursor : Memory.Cursor} {f : Fault} {queries : List Query}
      (hphase : s.phase = .closing cursor (some f) queries)
      (hnext : s'.phase = .ended (.error f)) (hkept : s.Keeps s') :
      Moves o d s m s' { m with closes := m.closes.modify cursor.number (· + 1) }
  | rest {result : Except Fault Nat} (hphase : s.phase = .ended result)
      (hnext : s'.phase = .ended result) (hkept : s.Keeps s') : Moves o d s m s' m

theorem Options.printing_deeds {o : Options} {d : Directory (Except Fault)} {row : Row}
    {printed : List Event} (h : o.printing d row = .ok printed) :
    printed.filter Event.isDeed = printed := by
  unfold printing at h
  split at h
  · cases h
    rfl
  · cases htext : row.report o.style d o.layout with
    | error f => simp [htext, Except.map] at h
    | ok text =>
        simp only [htext, Except.map] at h
        cases h
        rfl

theorem tick_keeps (o : Options) (s : State γ) : s.Keeps (tick o s) := by
  unfold tick
  split
  · refine ⟨rfl, ?_⟩
    simp [State.deeds, List.filter_append, Event.isDeed]
  · exact ⟨rfl, rfl⟩

variable (o : Options) (d : Directory (Except Fault))

theorem print_run (row : Row) (s : State γ) (m : Memory) :
    (print d.lift o row s).run.run m =
      (match o.printing d row with
        | .ok printed => .ok { s with events := s.events ++ printed }
        | .error f => .error f, m) := by
  unfold print Options.printing
  cases hquiet : o.quiet with
  | true =>
      simp only [if_true, List.append_nil]
      rfl
  | false =>
      simp only [Bool.false_eq_true, if_false, Row.report_lift]
      cases row.report o.style d o.layout with
      | error f => rfl
      | ok text => rfl

theorem handle_run (row : Row) (s : State Memory.Cursor) (m : Memory) :
    (∃ f s', o.printing d row = .error f ∧
      (handle Memory.table d.lift o row s).run m = ((s', some f), m) ∧
      s'.rows = s.rows + 1 ∧ s'.deeds = s.deeds) ∨
    (∃ printed s', o.printing d row = .ok printed ∧ o.delete = true ∧
      m.heldKeys.contains row.key = true ∧
      (handle Memory.table d.lift o row s).run m =
        ((s', some (.store (.deleteRefused row.key))), m) ∧
      s'.rows = s.rows + 1 ∧ s'.deeds = s.deeds ++ printed) ∨
    ∃ printed s', o.printing d row = .ok printed ∧
      (handle Memory.table d.lift o row s).run m = ((s', none), o.rid row m) ∧
      s'.rows = s.rows + 1 ∧ s'.deeds = s.deeds ++ (printed ++ o.deletion row) ∧
      (o.delete = true → m.heldKeys.contains row.key = false) := by
  have hprint := print_run o d row { s with rows := s.rows + 1 } m
  cases hprinted : o.printing d row with
  | error f =>
      refine .inl ⟨f, { s with rows := s.rows + 1 }, rfl, ?_, rfl, rfl⟩
      simp only [handle, StateT.run_bind, hprint, hprinted]
      rfl
  | ok printed =>
      have hfilter := Options.printing_deeds hprinted
      rw [hprinted] at hprint
      cases hdelete : o.delete with
      | false =>
          refine .inr (.inr ⟨printed, { s with
            rows := s.rows + 1
            events := s.events ++ printed }, rfl, ?_, rfl, ?_, fun h => nomatch h⟩)
          · simp only [handle, StateT.run_bind, hprint, hdelete, Options.rid]
            rfl
          · simp [State.deeds, Options.deletion, hdelete, hfilter]
      | true =>
          -- What may come between the text and the deletion is a report of progress, no deed.
          let written := { s with rows := s.rows + 1, events := s.events ++ printed }
          have hkept := tick_keeps o written
          have hdeeds : (tick o written).deeds = s.deeds ++ printed := by
            rw [hkept.deeds]
            simp [State.deeds, written, hfilter]
          have hprint : (print d.lift o row { s with rows := s.rows + 1 }).run.run m =
              pure (.ok written, m) := hprint
          cases hheld : m.heldKeys.contains row.key with
          | true =>
              have hrun : (Memory.table.delete row.key).run.run m =
                  pure (.error (.store (.deleteRefused row.key)), m) :=
                (Memory.delete_run row.key m).trans (if_pos hheld)
              refine .inr (.inl ⟨printed, tick o written, rfl, rfl, rfl, ?_, hkept.rows, hdeeds⟩)
              simp only [handle, StateT.run_bind, hprint, pure_bind, hdelete, if_true, hrun]
              rfl
          | false =>
              have hrun : (Memory.table.delete row.key).run.run m =
                  pure (.ok (), o.rid row m) := by
                refine (Memory.delete_run row.key m).trans ?_
                simp only [hheld, Bool.false_eq_true, if_false, Options.rid, hdelete, if_true,
                  Memory.filter_key_ne]
                rfl
              refine .inr (.inr ⟨printed, { tick o written with
                events := (tick o written).events ++ [.deleted row.key] }, rfl, ?_, hkept.rows, ?_,
                fun _ => rfl⟩)
              · simp only [handle, StateT.run_bind, hprint, pure_bind, hdelete, if_true, hrun]
                rfl
              · rw [← List.append_assoc, ← hdeeds]
                simp [State.deeds, Options.deletion, hdelete, Event.isDeed]

/-- Every step of a sweep is one of the moves. -/
theorem step_moves (s : State Memory.Cursor) (m : Memory) :
    ∃ s' m', (step Memory.table d.lift o s).run m = (s', m') ∧ Moves o d s m s' m' := by
  unfold step
  split
  case h_1 hphase => exact ⟨_, _, rfl, .finish hphase rfl ⟨rfl, rfl⟩⟩
  case h_2 q queries hphase =>
      have hrun : (Memory.table.openScan q).run.run m = _ := Memory.openScan_run q m
      cases hoffer : m.offered q with
      | error f =>
          rw [hoffer] at hrun
          refine ⟨{ s with phase := .ended (.error f) }, m, ?_, .refuse hphase hoffer rfl ⟨rfl, rfl⟩⟩
          simp only [StateT.run_bind, hrun]
          rfl
      | ok pages =>
          rw [hoffer] at hrun
          refine ⟨{ s with phase := .fetching ⟨m.closes.length, pages⟩ queries }, _, ?_,
            .begin hphase hoffer rfl ⟨rfl, rfl⟩⟩
          simp only [StateT.run_bind, hrun]
          rfl
  case h_3 cursor queries hphase =>
      rcases cursor with ⟨number, _ | ⟨page, pages⟩⟩
      · exact ⟨_, _, rfl, .exhaust hphase rfl ⟨rfl, rfl⟩⟩
      · exact ⟨_, _, rfl, .fetch hphase rfl ⟨rfl, rfl⟩⟩
  case h_4 cursor queries hphase => exact ⟨_, _, rfl, .turn hphase rfl ⟨rfl, rfl⟩⟩
  case h_5 cursor row page queries hphase =>
      rcases handle_run o d row s m with ⟨f, s', hprint, hrun, hrows, hdeeds⟩ |
        ⟨printed, s', hprint, hdelete, hheld, hrun, hrows, hdeeds⟩ |
        ⟨printed, s', hprint, hrun, hrows, hdeeds, hfree⟩
      · refine ⟨{ s' with phase := .closing cursor (some f) queries }, m, ?_,
          .unreadable hphase hprint rfl hrows hdeeds⟩
        simp only [StateT.run_bind, hrun]
        rfl
      · refine ⟨{ s' with phase := .closing cursor (some (.store (.deleteRefused row.key))) queries },
          m, ?_, .held hphase hprint hdelete hheld rfl hrows hdeeds⟩
        simp only [StateT.run_bind, hrun]
        rfl
      · refine ⟨{ s' with phase := .handling cursor page queries }, _, ?_,
          .handle hphase hprint rfl hrows hdeeds hfree⟩
        simp only [StateT.run_bind, hrun]
        rfl
  case h_6 cursor queries hphase => exact ⟨_, _, rfl, .close hphase rfl ⟨rfl, rfl⟩⟩
  case h_7 cursor f queries hphase => exact ⟨_, _, rfl, .abort hphase rfl ⟨rfl, rfl⟩⟩
  case h_8 result hphase => exact ⟨_, _, rfl, .rest hphase hphase ⟨rfl, rfl⟩⟩

/-- The steps that are left at most from a phase on, when no scan has more than so many rows. -/
def Phase.stepsLeft (rows : Nat) : Phase Memory.Cursor → Nat
  | .opening queries => enough queries.length rows rows
  | .fetching cursor queries =>
      cursor.pages.flatten.length + 2 * cursor.pages.length + 2 + enough queries.length rows rows
  | .handling cursor page queries =>
      page.length + 1 +
        (cursor.pages.flatten.length + 2 * cursor.pages.length + 2 +
          enough queries.length rows rows)
  | .closing _ none queries => 1 + enough queries.length rows rows
  | .closing _ (some _) _ => 1
  | .ended _ => 0

variable {o d} {s s' : State Memory.Cursor} {m m' : Memory}

theorem Moves.rows_length_le (h : Moves o d s m s' m') : m'.rows.length ≤ m.rows.length := by
  cases h with
  | handle =>
      unfold Options.rid
      split
      · exact List.length_filter_le _ _
      · exact Nat.le_refl _
  | _ => exact Nat.le_refl _

theorem Moves.memory (h : Moves o d s m s' m') :
    m'.records = m.records ∧ m'.pageSize = m.pageSize ∧ ∀ row ∈ m'.rows, row ∈ m.rows := by
  cases h with
  | handle =>
      unfold Options.rid
      split
      · exact ⟨rfl, rfl, fun row hrow => (List.mem_filter.mp hrow).1⟩
      · exact ⟨rfl, rfl, fun row hrow => hrow⟩
  | _ => exact ⟨rfl, rfl, fun row hrow => hrow⟩

theorem Moves.stepsLeft_lt {rows : Nat} (h : Moves o d s m s' m') (hrows : m.rows.length ≤ rows)
    (hleft : s.phase.stepsLeft rows ≠ 0) :
    s'.phase.stepsLeft rows < s.phase.stepsLeft rows := by
  cases h with
  | finish hphase hnext _ =>
      rw [hphase, hnext]
      exact Nat.succ_pos _
  | refuse hphase _ hnext _ =>
      rw [hphase, hnext]
      exact Nat.succ_pos _
  | @begin q queries pages hphase hoffer hnext _ =>
      obtain ⟨hpages, hflat⟩ := Memory.offered_lengths hoffer
      have hmore : enough (queries.length + 1) rows rows =
          enough queries.length rows rows + (rows + 2 * rows + 4) := by
        simp only [enough, Nat.add_mul, Nat.one_mul]
        omega
      rw [hphase, hnext]
      simp only [Phase.stepsLeft, List.length_cons, hmore]
      omega
  | fetch hphase hnext _ =>
      rw [hphase, hnext]
      simp only [Phase.stepsLeft, List.flatten_cons, List.length_append, List.length_cons]
      omega
  | exhaust hphase hnext _ =>
      rw [hphase, hnext]
      simp only [Phase.stepsLeft, List.flatten_nil, List.length_nil]
      omega
  | turn hphase hnext _ =>
      rw [hphase, hnext]
      simp only [Phase.stepsLeft, List.length_nil]
      omega
  | unreadable hphase _ hnext _ _ =>
      rw [hphase, hnext]
      simp only [Phase.stepsLeft, List.length_cons]
      omega
  | held hphase _ _ _ hnext _ _ =>
      rw [hphase, hnext]
      simp only [Phase.stepsLeft, List.length_cons]
      omega
  | handle hphase _ hnext _ _ =>
      rw [hphase, hnext]
      simp only [Phase.stepsLeft, List.length_cons]
      omega
  | close hphase hnext _ =>
      rw [hphase, hnext]
      simp only [Phase.stepsLeft]
      omega
  | abort hphase hnext _ =>
      rw [hphase, hnext]
      exact Nat.one_pos
  | rest hphase _ _ => simp [hphase, Phase.stepsLeft] at hleft

theorem Phase.ended_of_stepsLeft {rows : Nat} {phase : Phase Memory.Cursor}
    (h : phase.stepsLeft rows = 0) : ∃ result, phase = .ended result := by
  cases phase with
  | ended result => exact ⟨result, rfl⟩
  | opening queries => simp [stepsLeft, enough] at h
  | fetching cursor queries => simp [stepsLeft, enough] at h
  | handling cursor page queries => simp [stepsLeft, enough] at h
  | closing cursor failure queries =>
      cases failure with
      | none => simp [stepsLeft, enough] at h
      | some f => simp [stepsLeft] at h

/-- With steps enough a sweep ends, and what every move preserves holds at its end. -/
theorem run_ends {motive : State Memory.Cursor → Memory → Prop}
    (hmove : ∀ s m s' m', motive s m → Moves o d s m s' m' → motive s' m') {rows steps : Nat}
    (h : motive s m) (hrows : m.rows.length ≤ rows) (hsteps : s.phase.stepsLeft rows ≤ steps) :
    ∃ s' m' result, (run Memory.table d.lift o steps s).run m = (s', m') ∧
      s'.phase = .ended result ∧ motive s' m' := by
  induction steps generalizing s m with
  | zero =>
      obtain ⟨result, hphase⟩ := Phase.ended_of_stepsLeft (Nat.le_zero.mp hsteps)
      exact ⟨s, m, result, rfl, hphase, h⟩
  | succ steps ih =>
      unfold run
      split
      case h_1 result hphase => exact ⟨s, m, result, rfl, hphase, h⟩
      case h_2 hrunning =>
          obtain ⟨s₁, m₁, hstep, hmoves⟩ := step_moves o d s m
          have hleft : s.phase.stepsLeft rows ≠ 0 := by
            intro hzero
            obtain ⟨result, hphase⟩ := Phase.ended_of_stepsLeft hzero
            exact hrunning result hphase
          have hless := hmoves.stepsLeft_lt hrows hleft
          -- A deletion leaves fewer rows, but the measure keeps to the rows of the start.
          have hfewer : s₁.phase.stepsLeft rows ≤ steps := by omega
          simp only [StateT.run_bind, hstep]
          exact ih (hmove s m s₁ m₁ h hmoves) (Nat.le_trans hmoves.rows_length_le hrows) hfewer

end RawSeries.Sweep
