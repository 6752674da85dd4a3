import RawSeries.Proofs.GatewayScan

/-!
Answers of a gateway that tell nothing of a scan: throttles, refusals, and bodies that cannot be
read. A call for rows may fail on them, but calls that go on after it return the rows of the other
answers, none of them lost and none of them twice.
-/

namespace RawSeries.Gateway

/-- The answer tells something of the scan: its end, or a page that can be read. -/
def Answer.counts (asked : Address) (family : Option Bytes) (a : Answer) : Bool :=
  (a.check asked).isOk && !a.isThrottle && a.isSuccess &&
    (a.status == 204 || (a.read >>= CellSet.read family).isOk)

namespace Cursor

/-- What a call for rows comes to, but for what happened on the way. -/
def Turn.outcome (t : Turn) : Except Fault (Option (List Row)) × Cursor × List Answer :=
  (t.result, t.cursor, t.left)

def asking (asked : Address) : List Event :=
  [.request "GET" (String.ofList asked.target) none]

variable {asked : Address}

/-- An answer that counts is the end of the scan or a page, however many throttles came before. -/
theorem await_of_counts {c : Cursor} {a : Answer} (h : a.counts asked c.family = true) :
    (∀ before left, c.await asked before (a :: left) = c.exhaust left (asking asked)) ∨
      ∃ rows, ∀ before left, c.await asked before (a :: left) =
        if (c.absorb rows).1.isEmpty then
          ((c.absorb rows).2.await asked 0 left).after (asking asked)
        else ⟨.ok (some (c.absorb rows).1), (c.absorb rows).2, left, asking asked⟩ := by
  simp only [Answer.counts, Bool.and_eq_true, Bool.or_eq_true, beq_iff_eq, Bool.not_eq_true'] at h
  obtain ⟨⟨⟨hcheck, hthrottle⟩, hsuccess⟩, hbody⟩ := h
  have hcheck : a.check asked = .ok () := by
    cases hresult : a.check asked with
    | ok u => rfl
    | error f => simp [hresult, Except.isOk, Except.toBool] at hcheck
  by_cases hend : a.status = 204
  · refine .inl fun before left => ?_
    simp only [await, hcheck, hthrottle, hend]
    rfl
  · cases hread : a.read >>= CellSet.read c.family with
    | error f => simp [hend, hread, Except.isOk, Except.toBool] at hbody
    | ok rows =>
        refine .inr ⟨rows, fun before left => ?_⟩
        simp only [await, hcheck, hthrottle, hend, hsuccess, hread]
        rfl

theorem await_of_not_counts {c : Cursor} {a : Answer} (h : a.counts asked c.family = false)
    (before : Nat) (left : List Answer) :
    (∃ f events, c.await asked before (a :: left) = ⟨.error f, c, left, events⟩) ∨
      ∃ events, c.await asked before (a :: left) =
        (c.await asked (before + 1) left).after events := by
  cases hcheck : a.check asked with
  | error f => exact .inl ⟨f, asking asked, by simp only [await, hcheck]; rfl⟩
  | ok u =>
      cases hthrottle : a.isThrottle with
      | true =>
          cases hdelay : a.delay before with
          | error f =>
              exact .inl ⟨f, asking asked, by simp only [await, hcheck, hthrottle, hdelay]; rfl⟩
          | ok delay =>
              by_cases hmore : before + 1 < attempts
              · refine .inr ⟨asking asked ++ throttled "GET" c.location a.status delay, ?_⟩
                simp only [await, hcheck, hthrottle, hdelay, hmore]
                rfl
              · refine .inl ⟨.store (.retriesExhausted "GET" c.location),
                  asking asked ++ throttled "GET" c.location a.status delay, ?_⟩
                simp only [await, hcheck, hthrottle, hdelay, hmore]
                rfl
      | false =>
          have hend : a.status ≠ 204 := by
            intro hend
            simp [Answer.counts, hcheck, hthrottle, hend, Answer.isSuccess, Except.isOk,
              Except.toBool] at h
          cases hsuccess : a.isSuccess with
          | false =>
              refine .inl ⟨.status a.status (String.ofList asked.text), asking asked, ?_⟩
              simp only [await, hcheck, hthrottle, hend, hsuccess]
              rfl
          | true =>
              cases hread : a.read >>= CellSet.read c.family with
              | error f =>
                  refine .inl ⟨f, asking asked, ?_⟩
                  simp only [await, hcheck, hthrottle, hend, hsuccess, hread]
                  rfl
              | ok rows =>
                  simp [Answer.counts, hcheck, hthrottle, hsuccess, hread, Except.isOk,
                    Except.toBool] at h

/-- What every call for rows keeps to: it uses up answers from the first one on, it never hands out
no rows, and after the end of the scan nothing is held back. -/
structure Turn.IsSound (t : Turn) (c : Cursor) (answers : List Answer) : Prop where
  location : t.cursor.location = c.location
  family : t.cursor.family = c.family
  left : t.left <:+ answers
  handed : t.result ≠ .ok (some [])
  spent : t.result = .ok none → t.cursor.done = true ∧ t.cursor.pending = none

theorem Turn.IsSound.after {t : Turn} {c later : Cursor} {answers : List Answer}
    (h : t.IsSound later answers) (hlocation : later.location = c.location)
    (hfamily : later.family = c.family) (events : List Event) (a : Answer) :
    (t.after events).IsSound c (a :: answers) where
  location := h.location.trans hlocation
  family := h.family.trans hfamily
  left := h.left.trans (List.suffix_cons a answers)
  handed := h.handed
  spent := h.spent

theorem done_finish {c : Cursor} (hdone : c.done = true) : c.finish.2.done = true := by
  unfold finish
  split <;> exact hdone

theorem finish_isSound {c : Cursor} (hdone : c.done = true) (answers : List Answer)
    (events : List Event) :
    Turn.IsSound ⟨.ok c.finish.1, c.finish.2, answers, events⟩ c answers := by
  cases hpending : c.pending with
  | none =>
      simp only [finish, hpending]
      exact ⟨rfl, rfl, List.suffix_rfl, by simp, fun _ => ⟨hdone, hpending⟩⟩
  | some row =>
      simp only [finish, hpending]
      refine ⟨rfl, rfl, List.suffix_rfl, ?_, fun _ => ⟨hdone, rfl⟩⟩
      split
      · simp
      · rename_i hrows
        intro hnil
        exact hrows (by simpa using hnil)

theorem await_isSound (c : Cursor) (before : Nat) (answers : List Answer) :
    (c.await asked before answers).IsSound c answers := by
  have hexhaust (c : Cursor) (left : List Answer) (events : List Event) :
      (c.exhaust left events).IsSound c left := by
    have h := finish_isSound (c := { c with done := true }) rfl left events
    exact ⟨h.location, h.family, h.left, h.handed, h.spent⟩
  induction answers generalizing c before with
  | nil => exact hexhaust c [] _
  | cons a left ih =>
      cases hcounts : a.counts asked c.family with
      | true =>
          rcases await_of_counts hcounts with hend | ⟨rows, hpage⟩
          · rw [hend]
            have h := hexhaust c left (asking asked)
            exact ⟨h.location, h.family, h.left.trans (List.suffix_cons a left), h.handed, h.spent⟩
          · rw [hpage]
            split
            · exact (ih (c.absorb rows).2 0).after (c := c) rfl rfl _ a
            · rename_i hrows
              refine ⟨rfl, rfl, List.suffix_cons a left, ?_, nofun⟩
              intro hnil
              exact hrows (by simpa using hnil)
      | false =>
          rcases await_of_not_counts hcounts before left with ⟨f, events, hfails⟩ | ⟨events, hgoes⟩
          · rw [hfails]
            exact ⟨rfl, rfl, List.suffix_cons a left, nofun, nofun⟩
          · rw [hgoes]
            exact (ih c (before + 1)).after rfl rfl _ a

/-- A call on some answers against one on those of them that count: they come to the same, or the
first one fails, and the second one comes to what it would come to from there. -/
inductive Turn.Keeps (asked : Address) (c : Cursor) (answers : List Answer) (t quiet : Turn) :
    Prop where
  | hands (rows : Option (List Row)) (hresult : t.result = .ok rows)
      (houtcome : quiet.outcome =
        (.ok rows, t.cursor, t.left.filter (Answer.counts asked c.family)))
  | fails (f : Fault) (hresult : t.result = .error f) (hgoes : t.cursor.done = false)
      (hshorter : t.left.length < answers.length)
      (houtcome : quiet.outcome =
        (t.cursor.await asked 0 (t.left.filter (Answer.counts asked c.family))).outcome)

theorem Turn.Keeps.after {t quiet : Turn} {c later : Cursor} {answers : List Answer}
    (h : Turn.Keeps asked later answers t quiet) (hfamily : later.family = c.family)
    (events more : List Event) (a : Answer) :
    Turn.Keeps asked c (a :: answers) (t.after events) (quiet.after more) := by
  cases h with
  | hands rows hresult houtcome =>
      rw [hfamily] at houtcome
      exact .hands rows hresult houtcome
  | fails f hresult hgoes hshorter houtcome =>
      rw [hfamily] at houtcome
      exact .fails f hresult hgoes (Nat.lt_succ_of_lt hshorter) houtcome

theorem await_keeps (c : Cursor) (hgoes : c.done = false) (before : Nat) (answers : List Answer) :
    Turn.Keeps asked c answers (c.await asked before answers)
      (c.await asked 0 (answers.filter (Answer.counts asked c.family))) := by
  induction answers generalizing c before with
  | nil => exact .hands _ rfl rfl
  | cons a left ih =>
      cases hcounts : a.counts asked c.family with
      | true =>
          rw [List.filter_cons_of_pos hcounts]
          rcases await_of_counts hcounts with hend | ⟨rows, hpage⟩
          · rw [hend, hend]
            exact .hands _ rfl rfl
          · rw [hpage, hpage]
            split
            · exact (ih (c.absorb rows).2 hgoes 0).after (c := c) rfl _ _ a
            · exact .hands _ rfl rfl
      | false =>
          rw [List.filter_cons_of_neg (by simp [hcounts])]
          rcases await_of_not_counts hcounts before left with ⟨f, events, hfails⟩ | ⟨events, hon⟩
          · rw [hfails]
            exact .fails f rfl hgoes (Nat.lt_succ_self _) rfl
          · rw [hon]
            exact (ih c hgoes (before + 1)).after rfl _ [] a

theorem await_succeeds {c : Cursor} {answers : List Answer}
    (h : ∀ a ∈ answers, a.counts asked c.family = true) (before : Nat) :
    ∃ rows, (c.await asked before answers).result = .ok rows := by
  induction answers generalizing c before with
  | nil => exact ⟨_, rfl⟩
  | cons a left ih =>
      obtain ⟨ha, hleft⟩ := List.forall_mem_cons.mp h
      rcases await_of_counts ha with hend | ⟨rows, hpage⟩
      · rw [hend]
        exact ⟨_, rfl⟩
      · rw [hpage]
        split
        · exact ih (c := (c.absorb rows).2) hleft 0
        · exact ⟨_, rfl⟩

end Cursor

theorem Service.pages_setPages {service : Service} {path : String} {left : List Answer}
    (h : service.pages path = [] → left = []) :
    (service.setPages path left).pages path = left := by
  cases service with
  | prepared posts gets deletes => rfl
  | serving tables scanners opened =>
      cases hlookup : scanners.lookup path with
      | some answers => simp [setPages, pages, Session.lookup_setPages hlookup]
      | none =>
          -- There is no such scanner, so that nothing can be left of it.
          obtain rfl : left = [] := h (by simp [pages, hlookup])
          have hmissing : (scanners.map fun s => if s.1 = path then (path, []) else s).lookup
              path = none := by
            rw [List.lookup_eq_none_iff] at hlookup ⊢
            intro entry hentry
            obtain ⟨scanner, hscanner, rfl⟩ := List.mem_map.mp hentry
            have hother := hlookup scanner hscanner
            have hname : scanner.1 ≠ path := fun heq => by simp [heq] at hother
            rw [if_neg hname]
            exact hother
          simp only [setPages, pages, hmissing, Option.getD_none]

namespace Session

/-- Calls for rows one after the other, whatever comes of them. -/
def calls : Nat → Cursor → StateM Session (List (Except Fault (Option (List Row))))
  | 0, _ => return []
  | n + 1, c => do
      let (result, c) ← next c
      let results ← calls n c
      return result :: results

/-- What so many calls return, without those that fail. -/
def returned (s : Session) (c : Cursor) (n : Nat) : List (Option (List Row)) :=
  ((calls n c).run s).1.filterMap Except.toOption

/-- The session in which the scanner of a cursor has only the answers that count. -/
def quiet (s : Session) (c : Cursor) : Session :=
  match s.base.resolve c.location with
  | .error _ => s
  | .ok asked =>
      let path := String.ofList asked.target
      { s with
        service := s.service.setPages path
          ((s.service.pages path).filter (Answer.counts asked c.family)) }

variable {s s' : Session} {c c' : Cursor}

/-- A call sends requests to an address. -/
structure Asks (s : Session) (c : Cursor) (asked : Address) : Prop where
  goesOn : s.ended = false
  undone : c.done = false
  resolves : s.base.resolve c.location = .ok asked

/-- A call fails before it sends anything. -/
def IsStuck (s : Session) (c : Cursor) : Prop :=
  c.done = false ∧ (s.ended = true ∨ ∃ flaw, s.base.resolve c.location = .error flaw)

theorem done_or_stuck_or_asks (s : Session) (c : Cursor) :
    c.done = true ∨ IsStuck s c ∨ ∃ asked, Asks s c asked := by
  cases hdone : c.done with
  | true => exact .inl rfl
  | false =>
      cases hresolves : s.base.resolve c.location with
      | error flaw => exact .inr (.inl ⟨hdone, .inr ⟨flaw, hresolves⟩⟩)
      | ok asked =>
          cases hended : s.ended with
          | true => exact .inr (.inl ⟨hdone, .inl hended⟩)
          | false => exact .inr (.inr ⟨asked, hended, hdone, hresolves⟩)

theorem next_of_done (hdone : c.done = true) (s : Session) :
    ∃ later, (next c).run s = ((.ok c.finish.1, c.finish.2), later) ∧
      later.events = s.events := by
  cases hresolves : s.base.resolve c.location with
  | error flaw =>
      refine ⟨s, ?_, rfl⟩
      simp only [next, StateT.run_bind, StateT.run_get, pure_bind, hresolves, hdone]
      rfl
  | ok asked =>
      refine ⟨{ s with
        service := s.service.setPages (String.ofList asked.target)
          (s.service.pages (String.ofList asked.target))
        events := s.events ++ [] }, ?_, List.append_nil _⟩
      simp only [next, StateT.run_bind, StateT.run_get, pure_bind, hresolves, hdone, Cursor.next,
        Bool.not_true, Bool.and_false]
      rfl

theorem IsStuck.next (h : IsStuck s c) : ∃ f, (next c).run s = ((.error f, c), s) := by
  obtain ⟨hdone, hstuck⟩ := h
  cases hresolves : s.base.resolve c.location with
  | error flaw =>
      refine ⟨.address flaw, ?_⟩
      simp only [Session.next, StateT.run_bind, StateT.run_get, pure_bind, hresolves, hdone]
      rfl
  | ok asked =>
      have hended : s.ended = true := by
        rcases hstuck with hended | ⟨flaw, hflaw⟩
        · exact hended
        · rw [hresolves] at hflaw
          cases hflaw
      refine ⟨.disconnected, ?_⟩
      simp only [Session.next, StateT.run_bind, StateT.run_get, pure_bind, hresolves, hdone, hended]
      rfl

variable {asked : Address}

def turn (s : Session) (c : Cursor) (asked : Address) : Cursor.Turn :=
  c.await asked 0 (s.service.pages (String.ofList asked.target))

theorem turn_isSound (s : Session) (c : Cursor) (asked : Address) :
    (s.turn c asked).IsSound c (s.service.pages (String.ofList asked.target)) :=
  Cursor.await_isSound c 0 _

def afterTurn (s : Session) (c : Cursor) (asked : Address) : Session :=
  { s with
    service := s.service.setPages (String.ofList asked.target) (s.turn c asked).left
    events := s.events ++ (s.turn c asked).events }

theorem Asks.next (h : Asks s c asked) :
    (next c).run s =
      (((s.turn c asked).result, (s.turn c asked).cursor), s.afterTurn c asked) := by
  rw [next_run h.resolves h.goesOn]
  simp [Cursor.next, h.undone, turn, afterTurn]

theorem Asks.pages_afterTurn (s : Session) (c : Cursor) (asked : Address) :
    (s.afterTurn c asked).service.pages (String.ofList asked.target) = (s.turn c asked).left := by
  refine Service.pages_setPages fun hnone => ?_
  have hleft := (turn_isSound s c asked).left
  rw [hnone] at hleft
  exact List.suffix_nil.mp hleft

theorem Asks.again (h : Asks s c asked) (hgoes : (s.turn c asked).cursor.done = false) :
    Asks (s.afterTurn c asked) (s.turn c asked).cursor asked where
  goesOn := h.goesOn
  undone := hgoes
  resolves := by
    rw [(turn_isSound s c asked).location]
    exact h.resolves

theorem calls_succ {result : Except Fault (Option (List Row))}
    (h : (next c).run s = ((result, c'), s')) (n : Nat) :
    (calls (n + 1) c).run s =
      (result :: ((calls n c').run s').1, ((calls n c').run s').2) := by
  simp only [calls, StateT.run_bind, h]
  rfl

theorem returned_of_error {f : Fault} (h : (next c).run s = ((.error f, c'), s')) (n : Nat) :
    s.returned c (n + 1) = s'.returned c' n := by
  rw [returned, calls_succ h]
  rfl

theorem returned_of_ok {rows : Option (List Row)}
    (h : (next c).run s = ((.ok rows, c'), s')) (n : Nat) :
    s.returned c (n + 1) = rows :: s'.returned c' n := by
  rw [returned, calls_succ h]
  rfl

theorem IsStuck.returned (h : IsStuck s c) (n : Nat) : s.returned c n = [] := by
  induction n with
  | zero => rfl
  | succ n ih =>
      obtain ⟨f, hnext⟩ := h.next
      rw [returned_of_error hnext, ih]

/-- What the next call would come to on the answers that count. -/
def quietTurn (s : Session) (c : Cursor) (asked : Address) : Cursor.Turn :=
  c.await asked 0 ((s.service.pages (String.ofList asked.target)).filter
    (Answer.counts asked c.family))

/-- Two sessions with cursors that differ by answers that do not count: both have nothing to ask for,
or can ask for nothing, or the second call comes to what the first one would come to without
them. -/
inductive Alike (s : Session) (c : Cursor) (s' : Session) (c' : Cursor) : Prop where
  | done (hdone : c.done = true) (hsame : c' = c)
  | stuck (h : IsStuck s c) (h' : IsStuck s' c')
  | asks (asked : Address) (h : Asks s c asked) (h' : Asks s' c' asked)
      (houtcome : (s'.turn c' asked).outcome = (s.quietTurn c asked).outcome)

theorem Asks.pages_quiet (h : Asks s c asked) :
    (s.quiet c).service.pages (String.ofList asked.target) =
      (s.service.pages (String.ofList asked.target)).filter (Answer.counts asked c.family) := by
  simp only [quiet, h.resolves]
  exact Service.pages_setPages fun hnone => by rw [hnone, List.filter_nil]

theorem base_quiet (s : Session) (c : Cursor) : (s.quiet c).base = s.base := by
  unfold quiet
  split <;> rfl

theorem ended_quiet (s : Session) (c : Cursor) : (s.quiet c).ended = s.ended := by
  unfold quiet
  split <;> rfl

theorem Asks.quiet (h : Asks s c asked) : Asks (s.quiet c) c asked where
  goesOn := (ended_quiet s c).trans h.goesOn
  undone := h.undone
  resolves := by rw [base_quiet, h.resolves]

theorem quiet_alike (s : Session) (c : Cursor) : Alike s c (s.quiet c) c := by
  rcases done_or_stuck_or_asks s c with hdone | hstuck | ⟨asked, hasks⟩
  · exact .done hdone rfl
  · refine .stuck hstuck ⟨hstuck.1, ?_⟩
    rw [ended_quiet, base_quiet]
    exact hstuck.2
  · refine .asks asked hasks hasks.quiet ?_
    rw [turn, hasks.pages_quiet, quietTurn]

theorem Asks.keeps (h : Asks s c asked) :
    Cursor.Turn.Keeps asked c (s.service.pages (String.ofList asked.target)) (s.turn c asked)
      (s.quietTurn c asked) :=
  Cursor.await_keeps c h.undone 0 _

/-- A call that fails leaves less to skip, and what the other call comes to is the same. -/
theorem Asks.fails (h : Asks s c asked) {f : Fault} (hresult : (s.turn c asked).result = .error f) :
    Asks (s.afterTurn c asked) (s.turn c asked).cursor asked ∧
      (s.turn c asked).left.length < (s.service.pages (String.ofList asked.target)).length ∧
      (s.quietTurn c asked).outcome =
        ((s.afterTurn c asked).quietTurn (s.turn c asked).cursor asked).outcome := by
  cases h.keeps with
  | hands rows hrows _ =>
      rw [hresult] at hrows
      cases hrows
  | fails _ _ hgoes hshorter hquiet =>
      refine ⟨h.again hgoes, hshorter, ?_⟩
      rw [hquiet, quietTurn, Asks.pages_afterTurn, (turn_isSound s c asked).family]

/-- Where one call returns something, so does the other, and the sessions stay alike. -/
theorem Asks.hands (h : Asks s c asked) (h' : Asks s' c' asked)
    (houtcome : (s'.turn c' asked).outcome = (s.quietTurn c asked).outcome)
    {rows : Option (List Row)} (hresult : (s.turn c asked).result = .ok rows) :
    (s'.turn c' asked).result = .ok rows ∧
      Alike (s.afterTurn c asked) (s.turn c asked).cursor
        (s'.afterTurn c' asked) (s'.turn c' asked).cursor := by
  cases h.keeps with
  | fails f hfails _ _ _ =>
      rw [hresult] at hfails
      cases hfails
  | hands rows' hrows hquiet =>
      obtain rfl : rows = rows' := Except.ok.inj (hresult.symm.trans hrows)
      obtain ⟨hsame, hcursor, hleft⟩ : (s'.turn c' asked).result = .ok rows ∧
          (s'.turn c' asked).cursor = (s.turn c asked).cursor ∧
          (s'.turn c' asked).left =
            (s.turn c asked).left.filter (Answer.counts asked c.family) := by
        simpa [Cursor.Turn.outcome] using houtcome.trans hquiet
      refine ⟨hsame, ?_⟩
      cases hdone : (s.turn c asked).cursor.done with
      | true => exact .done hdone hcursor
      | false =>
          have hgoes : (s'.turn c' asked).cursor.done = false := by rw [hcursor, hdone]
          refine .asks asked (h.again hdone) (h'.again hgoes) ?_
          rw [turn, quietTurn, Asks.pages_afterTurn, Asks.pages_afterTurn, hcursor, hleft,
            (turn_isSound s c asked).family]

theorem Alike.exists_quiet (h : Alike s c s' c') (n : Nat) :
    ∃ k, s'.returned c' k = s.returned c n := by
  induction n generalizing s c s' c' with
  | zero => exact ⟨0, rfl⟩
  | succ n ih =>
      cases h with
      | done hdone hsame =>
          obtain ⟨later, hnext, -⟩ := next_of_done hdone s
          obtain ⟨later', hnext', -⟩ := next_of_done hdone s'
          obtain ⟨k, hk⟩ := ih (.done (Cursor.done_finish hdone) rfl : Alike later _ later' _)
          exact ⟨k + 1, by rw [hsame, returned_of_ok hnext, returned_of_ok hnext', hk]⟩
      | stuck hstuck hstuck' => exact ⟨0, by rw [hstuck.returned, hstuck'.returned]⟩
      | asks asked hasks hasks' houtcome =>
          cases hresult : (s.turn c asked).result with
          | error f =>
              obtain ⟨hagain, -, hquiet⟩ := hasks.fails hresult
              obtain ⟨k, hk⟩ := ih (.asks asked hagain hasks' (houtcome.trans hquiet))
              have hnext := hasks.next
              rw [hresult] at hnext
              exact ⟨k, by rw [hk, returned_of_error hnext]⟩
          | ok rows =>
              obtain ⟨hsame, halike⟩ := hasks.hands hasks' houtcome hresult
              obtain ⟨k, hk⟩ := ih halike
              have hnext := hasks.next
              have hnext' := hasks'.next
              rw [hresult] at hnext
              rw [hsame] at hnext'
              exact ⟨k + 1, by rw [returned_of_ok hnext, returned_of_ok hnext', hk]⟩

theorem Alike.exists_noisy (h : Alike s c s' c') (k : Nat) :
    ∃ n, s.returned c n = s'.returned c' k := by
  induction k generalizing s c s' c' with
  | zero => exact ⟨0, rfl⟩
  | succ k ih =>
      cases h with
      | done hdone hsame =>
          obtain ⟨later, hnext, -⟩ := next_of_done hdone s
          obtain ⟨later', hnext', -⟩ := next_of_done hdone s'
          obtain ⟨n, hn⟩ := ih (.done (Cursor.done_finish hdone) rfl : Alike later _ later' _)
          exact ⟨n + 1, by rw [hsame, returned_of_ok hnext, returned_of_ok hnext', hn]⟩
      | stuck hstuck hstuck' => exact ⟨0, by rw [hstuck.returned, hstuck'.returned]⟩
      | asks asked hasks hasks' houtcome =>
          -- Calls that fail use up answers, so that one of them returns something in the end.
          induction hlength : (s.service.pages (String.ofList asked.target)).length
            using Nat.strongRecOn generalizing s c with
          | ind length fewer =>
              have hnext := hasks.next
              cases hresult : (s.turn c asked).result with
              | error f =>
                  obtain ⟨hagain, hshorter, hquiet⟩ := hasks.fails hresult
                  rw [← Asks.pages_afterTurn, hlength] at hshorter
                  obtain ⟨n, hn⟩ := fewer _ hshorter hagain (houtcome.trans hquiet) rfl
                  rw [hresult] at hnext
                  exact ⟨n + 1, by rw [returned_of_error hnext, hn]⟩
              | ok rows =>
                  obtain ⟨hsame, halike⟩ := hasks.hands hasks' houtcome hresult
                  obtain ⟨n, hn⟩ := ih halike
                  have hnext' := hasks'.next
                  rw [hresult] at hnext
                  rw [hsame] at hnext'
                  exact ⟨n + 1, by rw [returned_of_ok hnext, returned_of_ok hnext', hn]⟩

theorem length_returned_of_counts (h : c.done = true ∨ ∃ asked, Asks s c asked ∧
      ∀ a ∈ s.service.pages (String.ofList asked.target), a.counts asked c.family = true)
    (n : Nat) : (s.returned c n).length = n := by
  induction n generalizing s c with
  | zero => rfl
  | succ n ih =>
      rcases h with hdone | ⟨asked, hasks, hcounts⟩
      · obtain ⟨later, hnext, -⟩ := next_of_done hdone s
        rw [returned_of_ok hnext, List.length_cons, ih (.inl (Cursor.done_finish hdone))]
      · obtain ⟨rows, hresult⟩ := Cursor.await_succeeds hcounts 0
        have hnext := hasks.next
        rw [show (s.turn c asked).result = .ok rows from hresult] at hnext
        rw [returned_of_ok hnext, List.length_cons, ih]
        cases hdone : (s.turn c asked).cursor.done with
        | true => exact .inl rfl
        | false =>
            refine .inr ⟨asked, hasks.again hdone, fun a ha => ?_⟩
            rw [Asks.pages_afterTurn] at ha
            rw [(turn_isSound s c asked).family]
            exact hcounts a ((turn_isSound s c asked).left.mem ha)

theorem next_sound {result : Except Fault (Option (List Row))}
    (h : (next c).run s = ((result, c'), s')) :
    result ≠ .ok (some []) ∧ (result = .ok none → c'.done = true ∧ c'.pending = none) := by
  rcases done_or_stuck_or_asks s c with hdone | hstuck | ⟨asked, hasks⟩
  · obtain ⟨later, hnext, -⟩ := next_of_done hdone s
    cases hnext.symm.trans h
    have hsound := Cursor.finish_isSound hdone [] []
    exact ⟨hsound.handed, hsound.spent⟩
  · obtain ⟨f, hnext⟩ := hstuck.next
    cases hnext.symm.trans h
    exact ⟨nofun, nofun⟩
  · cases hasks.next.symm.trans h
    exact ⟨(turn_isSound s c asked).handed, (turn_isSound s c asked).spent⟩

theorem returned_ne_nil (s : Session) (c : Cursor) (n : Nat) : some [] ∉ s.returned c n := by
  induction n generalizing s c with
  | zero => exact List.not_mem_nil
  | succ n ih =>
      rcases hnext : (next c).run s with ⟨⟨result, c'⟩, s'⟩
      cases result with
      | error f =>
          rw [returned_of_error hnext]
          exact ih s' c'
      | ok rows =>
          rw [returned_of_ok hnext, List.mem_cons, not_or]
          refine ⟨?_, ih s' c'⟩
          rintro rfl
          exact (next_sound hnext).1 rfl

theorem calls_of_spent (hdone : c.done = true) (hpending : c.pending = none) (s : Session)
    (n : Nat) :
    ∃ later, (calls n c).run s = (List.replicate n (.ok none), later) ∧
      later.events = s.events := by
  induction n generalizing s with
  | zero => exact ⟨s, rfl, rfl⟩
  | succ n ih =>
      obtain ⟨s', hnext, hsame⟩ := next_of_done hdone s
      have hfinish : c.finish = (none, c) := by simp [Cursor.finish, hpending]
      rw [hfinish] at hnext
      obtain ⟨later, hcalls, hevents⟩ := ih s'
      refine ⟨later, ?_, hevents.trans hsame⟩
      rw [calls_succ hnext, hcalls, List.replicate_succ]

theorem calls_after_none {n : Nat} (h : none ∈ s.returned c n) (more : Nat) :
    ∃ later, (calls (n + more) c).run s =
        (((calls n c).run s).1 ++ List.replicate more (.ok none), later) ∧
      later.events = ((calls n c).run s).2.events := by
  induction n generalizing s c with
  | zero => exact absurd h List.not_mem_nil
  | succ n ih =>
      rcases hnext : (next c).run s with ⟨⟨result, c'⟩, s'⟩
      have hgoes (hlater : none ∈ s'.returned c' n) :
          ∃ later, (calls (n + 1 + more) c).run s =
              (((calls (n + 1) c).run s).1 ++ List.replicate more (.ok none), later) ∧
            later.events = ((calls (n + 1) c).run s).2.events := by
        obtain ⟨later, hcalls, hevents⟩ := ih hlater
        refine ⟨later, ?_, ?_⟩
        · rw [Nat.succ_add, calls_succ hnext, hcalls, calls_succ hnext, List.cons_append]
        · rw [hevents, calls_succ hnext]
      cases result with
      | error f =>
          rw [returned_of_error hnext] at h
          exact hgoes h
      | ok rows =>
          cases rows with
          | some rows =>
              rw [returned_of_ok hnext] at h
              exact hgoes (by simpa using h)
          | none =>
              obtain ⟨hdone, hpending⟩ := (next_sound hnext).2 rfl
              obtain ⟨first, hfirst, hsame⟩ := calls_of_spent hdone hpending s' n
              obtain ⟨later, hcalls, hevents⟩ := calls_of_spent hdone hpending s' (n + more)
              refine ⟨later, ?_, ?_⟩
              · rw [Nat.succ_add, calls_succ hnext, hcalls, calls_succ hnext, hfirst,
                  List.cons_append, List.replicate_append_replicate]
              · rw [hevents, calls_succ hnext, hfirst, hsame]

/-- Throttles, refusals and bodies that cannot be read cost no rows and repeat none: calls that go on
after those that fail return what they would return if only the other answers came, where no call
fails. No call returns no rows, and after the end of the scan nothing is asked for. -/
theorem returned_quiet (s : Session) (c : Cursor) :
    (∀ values, (∃ n, s.returned c n = values) ↔ ∃ n, (s.quiet c).returned c n = values) ∧
      (s.ended = false → (∃ asked, s.base.resolve c.location = .ok asked) →
        ∀ n, ((s.quiet c).returned c n).length = n) ∧
      (∀ n, some [] ∉ s.returned c n) ∧
      ∀ n, none ∈ s.returned c n → ∀ more,
        ∃ later, (calls (n + more) c).run s =
            (((calls n c).run s).1 ++ List.replicate more (.ok none), later) ∧
          later.events = ((calls n c).run s).2.events := by
  have halike := quiet_alike s c
  refine ⟨fun values => ⟨?_, ?_⟩, ?_, returned_ne_nil s c, fun n => calls_after_none⟩
  · rintro ⟨n, rfl⟩
    exact halike.exists_quiet n
  · rintro ⟨k, rfl⟩
    exact halike.exists_noisy k
  · rintro hgoes ⟨asked, hresolves⟩ n
    refine length_returned_of_counts ?_ n
    cases hdone : c.done with
    | true => exact .inl rfl
    | false =>
        have hasks : Asks s c asked := ⟨hgoes, hdone, hresolves⟩
        refine .inr ⟨asked, hasks.quiet, fun a ha => ?_⟩
        rw [hasks.pages_quiet] at ha
        exact (List.mem_filter.mp ha).2

/-- A row that goes on in the next page, with a throttle, a refusal and an unreadable body before the
page comes, and three throttles before the end. -/
def noisyAnswers : List Answer :=
  [.ofStatus 429, pageAnswer [([1], [116, 58, 0], [10])], .ofStatus 500, ⟨200, [], .text "\x7b"⟩,
    pageAnswer [([1], [116, 58, 1], [11]), ([2], [116, 58, 0], [12])], .ofStatus 503,
    .ofStatus 503, .ofStatus 503, .ofStatus 204]

def noisySession : Session :=
  { sampleSession with service := .prepared [] noisyAnswers [] }

def noisyCursor : Cursor :=
  .ofLocation Service.preparedLocation (some [116]) fun _ => true

theorem returned_quiet_noisy :
    noisySession.returned noisyCursor 7 =
        [some [⟨[1], [⟨[0], [10]⟩, ⟨[1], [11]⟩]⟩], some [⟨[2], [⟨[0], [12]⟩]⟩], none, none] ∧
      ∃ n, (noisySession.quiet noisyCursor).returned noisyCursor n =
        noisySession.returned noisyCursor 7 :=
  ⟨by decide +kernel, ((returned_quiet noisySession noisyCursor).1 _).mp ⟨7, rfl⟩⟩

end Session

end RawSeries.Gateway
