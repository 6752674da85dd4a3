import RawSeries.Proofs.SweepSteps

/-!
The course of a sweep over a table in memory. Whatever happens, the rows that were deleted are a
prefix of the rows that were received, and all of them were printed before.
-/

namespace RawSeries

namespace Sweep

namespace Options

def leaves (o : Options) (handled rows : List Row) : List Row :=
  if o.delete then Memory.without handled rows else rows

def deletes (o : Options) (handled : List Row) : List Bytes :=
  if o.delete then handled.map Row.key else []

/-- What is done with a row: it is written and flushed unless the sweep is quiet, and then deleted
if the sweep deletes. -/
def handling (o : Options) (d : Directory (Except Fault)) (row : Row) :
    Except Fault (List Event) :=
  (o.printing d row).map (· ++ o.deletion row)

end Options

/-- The rows that a sweep receives from a table for some queries when nothing fails on the way, and
the fault with which a scan cannot be opened in the end. A scan receives the rows that are left by
the scans before it and covered by its query, in the order of their keys. -/
inductive Receives (o : Options) (held : List String) :
    List Row → List Query → List Row → Option Fault → Prop where
  | all {rows : List Row} : Receives o held rows [] [] none
  | refused {rows : List Row} {q : Query} {queries : List Query}
      (hheld : held.contains q.metric = true) :
      Receives o held rows (q :: queries) [] (some (.store (.openRefused q.metric)))
  | flawed {rows : List Row} {q : Query} {queries : List Query} {flaw : NumberFlaw}
      (hheld : held.contains q.metric = false) (hscan : Memory.selected q rows = .error flaw) :
      Receives o held rows (q :: queries) [] (some (.number flaw))
  | scan {rows hits later : List Row} {q : Query} {queries : List Query} {refusal : Option Fault}
      (hheld : held.contains q.metric = false) (hscan : Memory.selected q rows = .ok hits)
      (hcovered : hits = rows.filter fun row => q.covers row.key)
      (hordered : Memory.Ordered hits)
      (hlater : Receives o held (o.leaves hits rows) queries later refusal) :
      Receives o held rows (q :: queries) (hits ++ later) refusal

/-- How a sweep ends that has handled some of the rows that it receives: what it did beyond handling
them, and its result. -/
inductive Ending (o : Options) (d : Directory (Except Fault)) (heldKeys : List Bytes)
    (received : List Row) (refusal : Option Fault) :
    List Row → List Event → Except Fault Nat → Prop where
  | whole (hrefusal : refusal = none) :
      Ending o d heldKeys received refusal received [] (.ok received.length)
  | refused {f : Fault} (hrefusal : refusal = some f) :
      Ending o d heldKeys received refusal received [] (.error f)
  | unreadable {handled : List Row} {row : Row} {f : Fault}
      (hnext : handled ++ [row] <+: received) (hprint : o.printing d row = .error f) :
      Ending o d heldKeys received refusal handled [] (.error f)
  | held {handled : List Row} {row : Row} {printed : List Event}
      (hnext : handled ++ [row] <+: received) (hprint : o.printing d row = .ok printed)
      (hdelete : o.delete = true) (hheld : heldKeys.contains row.key = true) :
      Ending o d heldKeys received refusal handled printed
        (.error (.store (.deleteRefused row.key)))

theorem Ending.handled_prefix {o : Options} {d : Directory (Except Fault)}
    {heldKeys : List Bytes} {received handled : List Row} {refusal : Option Fault}
    {tail : List Event} {result : Except Fault Nat}
    (h : Ending o d heldKeys received refusal handled tail result) : handled <+: received := by
  cases h with
  | whole => exact List.prefix_refl _
  | refused => exact List.prefix_refl _
  | unreadable hnext => exact (List.prefix_append _ _).trans hnext
  | held hnext => exact (List.prefix_append _ _).trans hnext

theorem Ending.tail_quiet {o : Options} {d : Directory (Except Fault)} {heldKeys : List Bytes}
    {received handled : List Row} {refusal : Option Fault} {tail : List Event}
    {result : Except Fault Nat} (hquiet : o.quiet = true)
    (h : Ending o d heldKeys received refusal handled tail result) : tail = [] := by
  cases h with
  | whole => rfl
  | refused => rfl
  | unreadable => rfl
  | held _ hprint _ _ =>
      rw [Options.printing, if_pos hquiet] at hprint
      cases hprint
      rfl

theorem Options.leaves_nil (o : Options) (rows : List Row) : o.leaves [] rows = rows := by
  unfold leaves
  split
  · exact Memory.without_nil rows
  · rfl

theorem Options.leaves_append (o : Options) (handled more rows : List Row) :
    o.leaves (handled ++ more) rows = o.leaves more (o.leaves handled rows) := by
  unfold leaves
  split
  · exact Memory.without_append handled more rows
  · rfl

theorem Options.leaves_ordered {o : Options} {rows : List Row} (h : Memory.Ordered rows)
    (handled : List Row) : Memory.Ordered (o.leaves handled rows) := by
  unfold leaves
  split
  · exact h.filter _
  · exact h

theorem Options.rid_rows (o : Options) (row : Row) (m : Memory) :
    (o.rid row m).rows = o.leaves [row] m.rows := by
  unfold rid leaves
  split
  · rfl
  · rfl

theorem exists_receives (o : Options) (held : List String) (queries : List Query)
    {rows : List Row} (h : Memory.Ordered rows) :
    ∃ received refusal, Receives o held rows queries received refusal := by
  induction queries generalizing rows with
  | nil => exact ⟨[], none, .all⟩
  | cons q queries ih =>
      cases hheld : held.contains q.metric with
      | true => exact ⟨[], _, .refused hheld⟩
      | false =>
          cases hscan : Memory.selected q rows with
          | error flaw => exact ⟨[], _, .flawed hheld hscan⟩
          | ok hits =>
              have hcovered := Memory.selected_eq_filter hscan
              have hordered : Memory.Ordered hits := by
                rw [hcovered]
                exact h.filter _
              obtain ⟨later, refusal, hlater⟩ := ih (Options.leaves_ordered h hits)
              exact ⟨hits ++ later, refusal, .scan hheld hscan hcovered hordered hlater⟩

section Account

variable (o : Options) (d : Directory (Except Fault)) (m₀ : Memory) (received : List Row)
  (refusal : Option Fault)

/-- The rows that were begun have all been handled; some rows of the scan wait in pages, and some
queries wait for their scans. -/
structure Awaits (handled : List Row) (tail : List Event) (begun : Nat) (rows pending : List Row)
    (queries : List Query) : Prop where
  tail : tail = []
  begun : begun = handled.length
  later : ∃ later, received = handled ++ (pending ++ later) ∧
    Receives o m₀.heldMetrics (o.leaves pending rows) queries later refusal

/-- What holds in each phase of a sweep of the rows that are handled, of the number of those that
were begun and of the rows in the table. -/
def Standing (handled : List Row) (tail : List Event) (begun : Nat) (rows : List Row) :
    Phase Memory.Cursor → Prop
  | .opening queries => Awaits o m₀ received refusal handled tail begun rows [] queries
  | .fetching cursor queries =>
      Awaits o m₀ received refusal handled tail begun rows cursor.pages.flatten queries
  | .handling cursor page queries =>
      Awaits o m₀ received refusal handled tail begun rows (page ++ cursor.pages.flatten) queries
  | .closing _ none queries => Awaits o m₀ received refusal handled tail begun rows [] queries
  | .closing _ (some f) _ => Ending o d m₀.heldKeys received refusal handled tail (.error f)
  | .ended result => Ending o d m₀.heldKeys received refusal handled tail result

/-- The rows that a sweep has handled account for what it did and for the state of the memory. -/
structure Accounts (s : State Memory.Cursor) (m : Memory) (handled : List Row)
    (tail : List Event) : Prop where
  heldKeys : m.heldKeys = m₀.heldKeys
  heldMetrics : m.heldMetrics = m₀.heldMetrics
  pageSize : 0 < m.pageSize
  rows : m.rows = o.leaves handled m₀.rows
  deleted : m.deleted = o.deletes handled
  deeds : ∃ traces, handled.mapM (o.handling d) = .ok traces ∧ s.deeds = traces.flatten ++ tail
  standing : Standing o d m₀ received refusal handled tail s.rows m.rows s.phase

end Account

variable {o : Options} {d : Directory (Except Fault)} {m₀ : Memory} {received : List Row}
  {refusal : Option Fault} {s s' : State Memory.Cursor} {m m' : Memory} {handled : List Row}
  {tail : List Event}

theorem Accounts.go_on (h : Accounts o d m₀ received refusal s m handled tail)
    (closes : List Nat) (hdeeds : s'.deeds = s.deeds)
    (hstanding : Standing o d m₀ received refusal handled tail s'.rows m.rows s'.phase) :
    Accounts o d m₀ received refusal s' { m with closes } handled tail where
  heldKeys := h.heldKeys
  heldMetrics := h.heldMetrics
  pageSize := h.pageSize
  rows := h.rows
  deleted := h.deleted
  deeds := by
    rw [hdeeds]
    exact h.deeds
  standing := hstanding

section Opening

variable {begun : Nat} {q : Query} {queries : List Query}

theorem Awaits.whole (h : Awaits o m₀ received refusal handled tail begun m.rows [] []) :
    Ending o d m₀.heldKeys received refusal handled tail (.ok begun) := by
  obtain ⟨rfl, rfl, later, hreceived, hlater⟩ := h
  cases hlater
  obtain rfl : received = handled := by simpa using hreceived
  exact .whole rfl

theorem Awaits.refused {f : Fault}
    (h : Awaits o m₀ received refusal handled tail begun m.rows [] (q :: queries))
    (hmetrics : m.heldMetrics = m₀.heldMetrics) (hsize : 0 < m.pageSize)
    (hoffer : m.offered q = .error f) :
    Ending o d m₀.heldKeys received refusal handled tail (.error f) := by
  obtain ⟨rfl, -, later, hreceived, hlater⟩ := h
  rw [Options.leaves_nil, ← hmetrics] at hlater
  cases hlater with
  | refused hheld =>
      obtain rfl : received = handled := by simpa using hreceived
      rw [Memory.offered_of_held hheld] at hoffer
      cases hoffer
      exact .refused rfl
  | flawed hheld hscan =>
      obtain rfl : received = handled := by simpa using hreceived
      rw [Memory.offered_of_flaw hheld hscan] at hoffer
      cases hoffer
      exact .refused rfl
  | scan hheld hscan _ _ _ =>
      obtain ⟨pages, hpages, -⟩ := Memory.offered_of_selected hsize hheld hscan
      rw [hpages] at hoffer
      cases hoffer

theorem Awaits.begun_scan {pages : List (List Row)}
    (h : Awaits o m₀ received refusal handled tail begun m.rows [] (q :: queries))
    (hmetrics : m.heldMetrics = m₀.heldMetrics) (hsize : 0 < m.pageSize)
    (hoffer : m.offered q = .ok pages) :
    Awaits o m₀ received refusal handled tail begun m.rows pages.flatten queries := by
  obtain ⟨htail, hbegun, later, hreceived, hlater⟩ := h
  rw [Options.leaves_nil, ← hmetrics] at hlater
  cases hlater with
  | refused hheld =>
      rw [Memory.offered_of_held hheld] at hoffer
      cases hoffer
  | flawed hheld hscan =>
      rw [Memory.offered_of_flaw hheld hscan] at hoffer
      cases hoffer
  | @scan _ hits later _ _ _ hheld hscan _ _ hlater =>
      obtain ⟨others, hothers, hflat⟩ := Memory.offered_of_selected hsize hheld hscan
      rw [hothers] at hoffer
      cases hoffer
      rw [hmetrics, ← hflat] at hlater
      rw [← hflat] at hreceived
      exact ⟨htail, hbegun, later, hreceived, hlater⟩

end Opening

theorem Awaits.next_prefix {begun : Nat} {rows page more : List Row} {row : Row}
    {queries : List Query}
    (h : Awaits o m₀ received refusal handled tail begun rows (row :: page ++ more) queries) :
    handled ++ [row] <+: received := by
  obtain ⟨-, -, later, rfl, -⟩ := h
  exact ⟨page ++ more ++ later, by simp⟩

theorem Awaits.handled_row {begun : Nat} {rows page more : List Row} {row : Row}
    {queries : List Query}
    (h : Awaits o m₀ received refusal handled tail begun rows (row :: page ++ more) queries) :
    Awaits o m₀ received refusal (handled ++ [row]) [] (begun + 1) (o.leaves [row] rows)
      (page ++ more) queries := by
  obtain ⟨-, rfl, later, rfl, hlater⟩ := h
  refine ⟨rfl, by simp, later, by simp, ?_⟩
  rw [← Options.leaves_append]
  exact hlater

theorem Options.rid_deleted (o : Options) (row : Row) (m : Memory) :
    (o.rid row m).deleted = m.deleted ++ o.deletes [row] := by
  unfold rid deletes
  split
  · rfl
  · exact (List.append_nil _).symm

theorem Options.rid_fields (o : Options) (row : Row) (m : Memory) :
    (o.rid row m).heldKeys = m.heldKeys ∧ (o.rid row m).heldMetrics = m.heldMetrics ∧
      (o.rid row m).pageSize = m.pageSize ∧ (o.rid row m).closes = m.closes := by
  unfold rid
  split
  · exact ⟨rfl, rfl, rfl, rfl⟩
  · exact ⟨rfl, rfl, rfl, rfl⟩

theorem Options.deletes_append (o : Options) (handled more : List Row) :
    o.deletes (handled ++ more) = o.deletes handled ++ o.deletes more := by
  unfold deletes
  split
  · exact List.map_append
  · rfl

theorem Accounts.handled_row {row : Row} {printed : List Event}
    (h : Accounts o d m₀ received refusal s m handled [])
    (hprint : o.printing d row = .ok printed)
    (hdeeds : s'.deeds = s.deeds ++ (printed ++ o.deletion row))
    (hstanding : Standing o d m₀ received refusal (handled ++ [row]) [] s'.rows
      (o.leaves [row] m.rows) s'.phase) :
    Accounts o d m₀ received refusal s' (o.rid row m) (handled ++ [row]) [] := by
  obtain ⟨hkeys, hmetrics, hsize, -⟩ := o.rid_fields row m
  constructor
  case heldKeys => exact hkeys.trans h.heldKeys
  case heldMetrics => exact hmetrics.trans h.heldMetrics
  case pageSize =>
      rw [hsize]
      exact h.pageSize
  case rows => rw [Options.rid_rows, h.rows, Options.leaves_append]
  case deleted => rw [Options.rid_deleted, h.deleted, Options.deletes_append]
  case deeds =>
      obtain ⟨traces, htraces, hdone⟩ := h.deeds
      have hhandling : o.handling d row = .ok (printed ++ o.deletion row) := by
        simp only [Options.handling, hprint]
        rfl
      refine ⟨traces ++ [printed ++ o.deletion row], ?_, ?_⟩
      · rw [List.mapM_append, htraces]
        simp only [List.mapM_cons, List.mapM_nil, hhandling]
        rfl
      · rw [hdeeds, hdone]
        simp
  case standing =>
      rw [Options.rid_rows]
      exact hstanding

theorem Moves.accounts (hmoves : Moves o d s m s' m')
    (h : Accounts o d m₀ received refusal s m handled tail) :
    ∃ handled tail, Accounts o d m₀ received refusal s' m' handled tail := by
  have hstanding := h.standing
  cases hmoves with
  | finish hphase hnext hkept =>
      rw [hphase] at hstanding
      refine ⟨handled, tail, h.go_on m.closes hkept.deeds ?_⟩
      rw [hnext]
      exact Awaits.whole hstanding
  | refuse hphase hoffer hnext hkept =>
      rw [hphase] at hstanding
      refine ⟨handled, tail, h.go_on m.closes hkept.deeds ?_⟩
      rw [hnext]
      exact Awaits.refused hstanding h.heldMetrics h.pageSize hoffer
  | begin hphase hoffer hnext hkept =>
      rw [hphase] at hstanding
      refine ⟨handled, tail, h.go_on _ hkept.deeds ?_⟩
      rw [hnext, hkept.rows]
      exact Awaits.begun_scan hstanding h.heldMetrics h.pageSize hoffer
  | fetch hphase hnext hkept =>
      rw [hphase] at hstanding
      refine ⟨handled, tail, h.go_on m.closes hkept.deeds ?_⟩
      rw [hnext, hkept.rows]
      exact hstanding
  | exhaust hphase hnext hkept =>
      rw [hphase] at hstanding
      refine ⟨handled, tail, h.go_on m.closes hkept.deeds ?_⟩
      rw [hnext, hkept.rows]
      exact hstanding
  | turn hphase hnext hkept =>
      rw [hphase] at hstanding
      refine ⟨handled, tail, h.go_on m.closes hkept.deeds ?_⟩
      rw [hnext, hkept.rows]
      exact hstanding
  | unreadable hphase hprint hnext hrows hdeeds =>
      rw [hphase] at hstanding
      refine ⟨handled, tail, h.go_on m.closes hdeeds ?_⟩
      obtain rfl := hstanding.tail
      rw [hnext]
      exact .unreadable (Awaits.next_prefix hstanding) hprint
  | @held _ _ _ _ printed hphase hprint hdelete hheld hnext hrows hdeeds =>
      rw [hphase] at hstanding
      obtain rfl := hstanding.tail
      obtain ⟨traces, htraces, hdone⟩ := h.deeds
      -- The row is printed and stays, so its text comes after those of the rows that are handled.
      refine ⟨handled, printed, h.heldKeys, h.heldMetrics, h.pageSize, h.rows, h.deleted,
        ⟨traces, htraces, ?_⟩, ?_⟩
      · rw [hdeeds, hdone, List.append_nil]
      · rw [hnext]
        exact .held (Awaits.next_prefix hstanding) hprint hdelete (h.heldKeys ▸ hheld)
  | handle hphase hprint hnext hrows hdeeds =>
      rw [hphase] at hstanding
      obtain rfl := hstanding.tail
      refine ⟨_, [], h.handled_row hprint hdeeds ?_⟩
      rw [hnext, hrows]
      exact Awaits.handled_row hstanding
  | close hphase hnext hkept =>
      rw [hphase] at hstanding
      refine ⟨handled, tail, h.go_on _ hkept.deeds ?_⟩
      rw [hnext, hkept.rows]
      exact hstanding
  | abort hphase hnext hkept =>
      rw [hphase] at hstanding
      refine ⟨handled, tail, h.go_on _ hkept.deeds ?_⟩
      rw [hnext]
      exact hstanding
  | rest hphase hnext hkept =>
      rw [hphase] at hstanding
      refine ⟨handled, tail, h.go_on m.closes hkept.deeds ?_⟩
      rw [hnext]
      exact hstanding

/-- The cursors that were opened: those of earlier scans were given back once, and the cursor of the
current scan was not yet. -/
def Lent (closes : List Nat) : Phase Memory.Cursor → Prop
  | .opening _ => ∀ n ∈ closes, n = 1
  | .fetching cursor _ | .handling cursor _ _ | .closing cursor _ _ =>
      ∃ earlier, closes = earlier ++ [0] ∧ cursor.number = earlier.length ∧ ∀ n ∈ earlier, n = 1
  | .ended _ => ∀ n ∈ closes, n = 1

theorem lent_release {closes : List Nat} {number : Nat}
    (h : ∃ earlier, closes = earlier ++ [0] ∧ number = earlier.length ∧ ∀ n ∈ earlier, n = 1) :
    ∀ n ∈ closes.modify number (· + 1), n = 1 := by
  obtain ⟨earlier, rfl, rfl, hearlier⟩ := h
  have hmodify : (earlier ++ [0]).modify earlier.length (· + 1) = earlier ++ [1] := by
    rw [List.modify_eq_take_cons_drop (by simp)]
    simp
  intro n hn
  rw [hmodify, List.mem_append, List.mem_singleton] at hn
  exact hn.elim (hearlier n) id

/-- A sweep gives back every cursor that it opens, once, also when it fails. -/
theorem Moves.lent (hmoves : Moves o d s m s' m') (h : Lent m.closes s.phase) :
    Lent m'.closes s'.phase := by
  cases hmoves with
  | begin hphase hoffer hnext _ =>
      rw [hphase] at h
      rw [hnext]
      exact ⟨m.closes, rfl, rfl, h⟩
  | handle hphase _ hnext _ _ =>
      obtain ⟨-, -, -, hcloses⟩ := o.rid_fields _ m
      rw [hphase] at h
      rw [hnext, hcloses]
      exact h
  | close hphase hnext _ =>
      rw [hphase] at h
      rw [hnext]
      exact lent_release h
  | abort hphase hnext _ =>
      rw [hphase] at h
      rw [hnext]
      exact lent_release h
  | finish hphase hnext _ =>
      rw [hphase] at h
      rw [hnext]
      exact h
  | refuse hphase _ hnext _ =>
      rw [hphase] at h
      rw [hnext]
      exact h
  | fetch hphase hnext _ =>
      rw [hphase] at h
      rw [hnext]
      exact h
  | exhaust hphase hnext _ =>
      rw [hphase] at h
      rw [hnext]
      exact h
  | turn hphase hnext _ =>
      rw [hphase] at h
      rw [hnext]
      exact h
  | unreadable hphase _ hnext _ _ =>
      rw [hphase] at h
      rw [hnext]
      exact h
  | held hphase _ _ _ hnext _ _ =>
      rw [hphase] at h
      rw [hnext]
      exact h
  | rest hphase hnext _ =>
      rw [hphase] at h
      rw [hnext]
      exact h

def State.output {γ : Type} (s : State γ) : String :=
  String.join (s.events.map Event.text)

theorem State.output_eq_deeds {γ : Type} (s : State γ) :
    s.output = String.join (s.deeds.map Event.text) := by
  unfold output deeds
  induction s.events with
  | nil => rfl
  | cons event events ih =>
      cases event with
      | progress tick label rows =>
          simp only [List.map_cons, String.join_cons, Event.text, String.empty_append]
          exact ih
      | wrote text =>
          rw [List.filter_cons_of_pos rfl, List.map_cons, List.map_cons, String.join_cons,
            String.join_cons, ih]
      | flushed =>
          rw [List.filter_cons_of_pos rfl, List.map_cons, List.map_cons, String.join_cons,
            String.join_cons, ih]
      | deleted key =>
          rw [List.filter_cons_of_pos rfl, List.map_cons, List.map_cons, String.join_cons,
            String.join_cons, ih]

theorem handling_text {traces : List (List Event)} (hquiet : o.quiet = false)
    (h : handled.mapM (o.handling d) = .ok traces) :
    ∃ texts, handled.mapM (Row.report o.style d o.layout) = .ok texts ∧
      String.join (traces.flatten.map Event.text) = String.join texts := by
  induction handled generalizing traces with
  | nil =>
      cases h
      exact ⟨[], rfl, rfl⟩
  | cons row rest ih =>
      rw [List.mapM_cons] at h
      cases htext : row.report o.style d o.layout with
      | error f =>
          simp [Options.handling, Options.printing, hquiet, htext, Except.map, bind,
            Except.bind] at h
      | ok text =>
          have htrace : o.handling d row = .ok ([.wrote text, .flushed] ++ o.deletion row) := by
            simp only [Options.handling, Options.printing, hquiet, htext]
            rfl
          cases hothers : rest.mapM (o.handling d) with
          | error f => simp [htrace, hothers, bind, Except.bind] at h
          | ok others =>
              obtain ⟨texts, htexts, hjoin⟩ := ih hothers
              simp only [htrace, hothers, bind, Except.bind, pure, Except.pure] at h
              cases h
              refine ⟨text :: texts, ?_, ?_⟩
              · simp only [List.mapM_cons, htext, htexts]
                rfl
              · have hdeletion : String.join ((o.deletion row).map Event.text) = "" := by
                  unfold Options.deletion
                  split
                  · rfl
                  · rfl
                simp only [List.flatten_cons, List.map_append, String.join_append, hjoin,
                  String.join_cons, hdeletion]
                simp [Event.text]

theorem handling_text_quiet {traces : List (List Event)} (hquiet : o.quiet = true)
    (h : handled.mapM (o.handling d) = .ok traces) :
    String.join (traces.flatten.map Event.text) = "" := by
  have hhandling : o.handling d = fun row => pure (o.deletion row) := by
    funext row
    simp only [Options.handling, Options.printing, hquiet]
    rfl
  rw [hhandling, List.mapM_pure] at h
  cases h
  induction handled with
  | nil => rfl
  | cons row rest ih =>
      have hdeletion : String.join ((o.deletion row).map Event.text) = "" := by
        unfold Options.deletion
        split
        · rfl
        · rfl
      rw [List.map_cons, List.flatten_cons, List.map_append, String.join_append, hdeletion, ih]
      rfl

end Sweep

open Sweep in
/-- Sweeps lose no row. However a sweep ends, it has handled a prefix of the rows that it receives:
it has deleted their keys and no others, it has printed each of them before, and beyond that it has
at most printed one more row, the deletion of which was refused. -/
theorem Memory.sweep_handles_prefix (rows : List Row) (size : Nat) (heldKeys : List Bytes)
    (heldMetrics : List String) (uids : UidTable) (o : Sweep.Options) (queries : List Query) :
    ∃ s m result received refusal handled traces tail,
      (sweep uids.directory o queries).run
        { ofRows rows (size + 1) with heldKeys, heldMetrics } = (s, m) ∧
      s.result? = some result ∧
      Receives o heldMetrics (ofRows rows (size + 1)).rows queries received refusal ∧
      handled <+: received ∧
      m.deleted = (if o.delete then handled.map Row.key else []) ∧
      m.rows = (if o.delete then without handled (ofRows rows (size + 1)).rows
        else (ofRows rows (size + 1)).rows) ∧
      handled.mapM (o.handling uids.directory) = .ok traces ∧
      s.deeds = traces.flatten ++ tail ∧
      Ending o uids.directory heldKeys received refusal handled tail result ∧
      (o.quiet = false → ∃ texts,
        (handled.mapM (Row.report o.style uids.directory o.layout) : Except Fault _) = .ok texts ∧
        s.output = String.join texts ++ String.join (tail.map Event.text)) ∧
      (o.quiet = true → s.output = "") ∧
      ∀ n ∈ m.closes, n = 1 := by
  -- Which rows are received is settled here, before the first move, and no move changes it.
  let m₀ : Memory := { ofRows rows (size + 1) with heldKeys, heldMetrics }
  obtain ⟨received, refusal, hreceives⟩ :=
    exists_receives o heldMetrics queries (ofRows_ordered rows (size + 1))
  have hstart : Accounts o uids.directory m₀ received refusal (start o queries) m₀ [] [] := by
    refine ⟨rfl, rfl, Int.natCast_succ_pos size, ?_, ?_, ⟨[], rfl, rfl⟩, rfl, rfl, received, rfl, ?_⟩
    · rw [Options.leaves_nil]
    · unfold Options.deletes
      split
      · rfl
      · rfl
    · rw [Options.leaves_nil]
      exact hreceives
  have hlent : Lent m₀.closes (start o queries : State Cursor).phase := fun n hn => nomatch hn
  obtain ⟨s, m, result, hrun, hphase, ⟨handled, tail, haccounts⟩, hcloses⟩ :=
    run_ends (o := o) (d := uids.directory)
      (motive := fun s m => (∃ handled tail,
        Accounts o uids.directory m₀ received refusal s m handled tail) ∧ Lent m.closes s.phase)
      (fun s m s' m' h hmoves =>
        ⟨let ⟨_, _, h⟩ := h.1; hmoves.accounts h, hmoves.lent h.2⟩)
      ⟨⟨[], [], hstart⟩, hlent⟩ (Nat.le_refl m₀.rows.length) (Nat.le_refl _)
  obtain ⟨traces, htraces, hdeeds⟩ := haccounts.deeds
  have hending := haccounts.standing
  rw [hphase] at hending hcloses
  have hprefix : handled <+: received := Ending.handled_prefix hending
  have houtput : s.output =
      String.join (traces.flatten.map Event.text) ++ String.join (tail.map Event.text) := by
    rw [State.output_eq_deeds, hdeeds, List.map_append, String.join_append]
  have hresult : s.result? = some result := State.result?_eq_some.mpr hphase
  refine ⟨s, m, result, received, refusal, handled, traces, tail, ?_, hresult, hreceives, hprefix,
    haccounts.deleted, haccounts.rows, htraces, hdeeds, hending, ?_, ?_, hcloses⟩
  · rw [← hrun, ← UidTable.directory_eq_lift]
    rfl
  · intro hquiet
    obtain ⟨texts, htexts, hjoin⟩ := handling_text hquiet htraces
    exact ⟨texts, htexts, by rw [houtput, hjoin]⟩
  · intro hquiet
    have htail : tail = [] := Ending.tail_quiet hquiet hending
    rw [houtput, handling_text_quiet hquiet htraces, htail]
    rfl

end RawSeries
