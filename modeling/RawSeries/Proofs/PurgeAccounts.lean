import RawSeries.Proofs.PurgeRecords
import RawSeries.Proofs.SweepAccounts

namespace RawSeries

namespace Purge

/-- What the words of a metric are read as, at the present that is given for it. -/
def plan (uids : UidTable) (o : Options) (times : String → Quantity) (metric : String) :
    Except Fault (List Query) :=
  Query.read uids.directory o.layout (times metric) (words o metric)

/-- The query of a metric covers a row key. -/
def reaches (uids : UidTable) (o : Options) (times : String → Quantity) (pageSize : Int)
    (metric : String) (key : Bytes) : Bool :=
  match plan uids o times metric with
  | .ok queries => queries.any fun q => q.reaches pageSize key
  | .error _ => false

/-- An end that denotes the same instant at any time. -/
def Options.Fixed (o : Options) : Prop :=
  ∃ instant, ∀ now, Instant.read now o.stop = .ok instant

/-- Two purges are of the same metrics up to the same end. -/
structure Options.Alike (o o' : Options) : Prop where
  stop : o'.stop = o.stop
  opening : o'.opening = o.opening
  layout : o'.layout = o.layout

/-- What a record says of the work on its metric: the status, the rows and the error. -/
abbrev Remark := Status × Quantity × Option String

instance : DecidableEq Remark :=
  inferInstanceAs (DecidableEq (Status × Quantity × Option String))

/-- What the records of a metric say, in order. -/
def remarks (metric : String) (records : List Record) : List Remark :=
  (records.filter fun r => r.metric == metric).map fun r => (r.status, r.rows, r.error)

def begins : Remark := (.started, .whole 0, none)

def outcome : Except Fault Nat → Remark
  | .ok rows => (.done, .whole rows, none)
  | .error f => (.failed, .whole 0, some f.line)

/-- What has become of a metric: what its scan hands out, the rows that were deleted, and the
result. -/
structure Account where
  offer : Option (Except Fault (List Row))
  handled : List Row
  result : Option (Except Fault Nat)

def Account.blank : Account := ⟨none, [], none⟩

def Worker.opens (m : Memory) : Worker Memory.Cursor → Option (Except Fault (List Row))
  | .sweeping _ _ sweep => sweep.phase.opens m
  | _ => none

def Worker.rids {γ : Type} : Worker γ → Worker γ → List Row
  | .sweeping _ _ sweep, .sweeping _ _ sweep' => sweep.phase.rids sweep'.phase
  | _, _ => []

def Worker.result? {γ : Type} : Worker γ → Option (Except Fault Nat)
  | .confirming _ rows _ => some (.ok rows)
  | .rejecting _ f _ => some (.error f)
  | _ => none

def Account.after (a : Account) (m : Memory) (worker worker' : Worker Memory.Cursor) : Account :=
  ⟨(worker.opens m).or a.offer, a.handled ++ worker.rids worker', worker'.result?.or a.result⟩

/-- The work on a metric has come to a result. -/
structure Account.Settles (plan : Except Fault (List Query)) (held : List Bytes) (a : Account)
    (r : Except Fault Nat) : Prop where
  result : a.result = some r
  fate : (∃ f, plan = .error f ∧ a.offer = none ∧ a.handled = [] ∧ r = .error f) ∨
    ∃ q, plan = .ok [q] ∧ Sweep.Ends held a.offer a.handled r

/-- What holds of a worker, of what is recorded of its metric and of the account. -/
def Worker.Follows (plan : String → Except Fault (List Query)) (held : List Bytes)
    (noted : List Remark) (a : Account) : Worker Memory.Cursor → Prop
  | .announcing _ => noted = [] ∧ a = .blank
  | .reading _ _ => noted = [begins] ∧ a = .blank
  | .sweeping metric _ sweep => noted = [begins] ∧ a.result = none ∧ ∃ q, plan metric = .ok [q] ∧
      Sweep.Drains held q a.offer a.handled sweep.rows sweep.phase
  | .confirming metric rows _ => noted = [begins] ∧ a.Settles (plan metric) held (.ok rows)
  | .rejecting metric f _ => noted = [begins] ∧ a.Settles (plan metric) held (.error f)
  | _ => True

/-- What holds of a metric that no worker is at any more. Where a record was refused, the worker
died. -/
inductive Left (plan : Except Fault (List Query)) (held : List Bytes)
    (refused : List (String × Status)) (noted : List Remark) (a : Account) : Prop where
  | closed {r : Except Fault Nat} (hnoted : noted = [begins, outcome r])
      (hsettles : a.Settles plan held r)
  | unbegun (hnoted : noted = []) (hblank : a = .blank) (hrefused : refused ≠ [])
  | unclosed {r : Except Fault Nat} (hnoted : noted = [begins])
      (hsettles : a.Settles plan held r) (hrefused : refused ≠ [])

/-- The counts of results. -/
structure Tally where
  finished : Nat
  failed : Nat
  touched : Nat

def Tally.add (r : Except Fault Nat) (t : Tally) : Tally :=
  match r with
  | .ok rows => { t with finished := t.finished + 1, touched := t.touched + rows }
  | .error _ => { t with failed := t.failed + 1 }

def Tally.of (results : List (Except Fault Nat)) : Tally :=
  results.foldr Tally.add ⟨0, 0, 0⟩

def Board.tally (b : Board) : Tally :=
  ⟨b.finished, b.failed, b.touched⟩

theorem ofWord?_of_read {now : Quantity} {word : String} {instant : Int}
    (h : Instant.read now word = .ok instant) : Aggregator.ofWord? word = none := by
  cases hword : Aggregator.ofWord? word with
  | none => rfl
  | some a =>
      have hfound := List.find?_some hword
      rw [← eq_of_beq hfound] at h
      cases a <;> cases h

section Ends

variable {uids : UidTable} {o o' : Options}

theorem Options.Fixed.of_alike (h : o.Fixed) (halike : o.Alike o') : o'.Fixed := by
  obtain ⟨instant, hread⟩ := h
  refine ⟨instant, ?_⟩
  rw [halike.stop]
  exact hread

theorem Options.Fixed.ofWord (h : o.Fixed) : Aggregator.ofWord? o.stop = none := by
  obtain ⟨instant, hread⟩ := h
  exact ofWord?_of_read (hread (.whole 0))

theorem plan_of_alike (hfixed : o.Fixed) (halike : o.Alike o') (times times' : String → Quantity)
    (metric : String) : plan uids o' times' metric = plan uids o times metric := by
  have hword := hfixed.ofWord
  obtain ⟨instant, hread⟩ := hfixed
  have hstart : ∀ now, Instant.read now "0" = .ok 0 := fun _ => rfl
  simp only [plan, words, Query.read, Query.readStop, halike.stop, halike.layout, hword, hread,
    hstart, Option.isNone_none, if_true]

end Ends

theorem Tally.add_comm (r r' : Except Fault Nat) (t : Tally) :
    (t.add r').add r = (t.add r).add r' := by
  cases r with
  | ok rows =>
      cases r' with
      | ok rows' => simp only [add, Nat.add_right_comm]
      | error f => rfl
  | error f =>
      cases r' with
      | ok rows => rfl
      | error f' => rfl

theorem Tally.of_perm {results results' : List (Except Fault Nat)} (h : results.Perm results') :
    of results = of results' :=
  h.foldr_eq' (fun r _ r' _ t => add_comm r' r t) _

theorem Tally.of_append (results more : List (Except Fault Nat)) :
    of (results ++ more) = results.foldr add (of more) :=
  List.foldr_append

theorem Tally.of_total (results : List (Except Fault Nat)) :
    (of results).finished + (of results).failed = results.length := by
  induction results with
  | nil => rfl
  | cons r results ih =>
      rw [List.length_cons, ← ih]
      cases r with
      | ok rows => exact Nat.add_right_comm _ _ _
      | error f => exact (Nat.add_assoc _ _ _).symm

theorem remarks_append (metric : String) (records more : List Record) :
    remarks metric (records ++ more) = remarks metric records ++ remarks metric more := by
  simp only [remarks, List.filter_append, List.map_append]

theorem statuses_eq_remarks (metric : String) (records : List Record) :
    statuses metric records = (remarks metric records).map Prod.fst := by
  simp only [statuses, remarks, List.map_map]
  rfl

section Acts

variable {uids : UidTable} {o : Options} {times : String → Quantity} {id : Nat} {b b' : Board}
  {m m' : Memory} {worker worker' : Worker Memory.Cursor} {metric : String}
  {noted : List Remark} {a : Account}

theorem remarks_entries_eq_nil (h : worker.metric? ≠ some metric) :
    remarks metric (worker.entries o b m) = [] := by
  unfold remarks
  rw [List.filter_eq_nil_iff.mpr]
  · rfl
  · intro r hr hmetric
    apply h
    rw [metric_of_mem_entries hr, eq_of_beq hmetric]

theorem remarks_entries {r : Record} (hentry : worker.entry o b = some r)
    (hheld : m.heldRecords.contains (r.metric, r.status) = false) :
    remarks r.metric (worker.entries o b m) = [(r.status, r.rows, r.error)] := by
  simp only [Worker.entries, hentry, hheld, Bool.false_eq_true, if_false]
  simp [remarks]

theorem remarks_refused {r : Record} (hentry : worker.entry o b = some r)
    (hheld : m.heldRecords.contains (r.metric, r.status) = true) :
    remarks metric (worker.entries o b m) = [] := by
  simp only [Worker.entries, hentry, hheld, if_true]
  rfl

@[simp] theorem Worker.afterEntry_tally (o : Options) (b : Board) (worker : Worker Memory.Cursor) :
    (worker.afterEntry o b).2.tally = b.tally := by
  cases worker <;> rfl

@[simp] theorem Worker.afterEntry_result? (o : Options) (b : Board)
    (worker : Worker Memory.Cursor) : (worker.afterEntry o b).1.result? = none := by
  cases worker <;> rfl

theorem metric_of_isOver (h : worker.isOver = true) : worker.metric? = none := by
  cases worker with
  | stopped | dead f => rfl
  | _ => cases h

theorem rids_of_free (h : worker.metric? = none) : worker.rids worker' = [] := by
  cases worker with
  | sweeping name begun sweep => cases h
  | _ => rfl

theorem result_of_free (h : worker.metric? = none) : worker.result? = none := by
  cases worker with
  | confirming name rows spent | rejecting name f spent => cases h
  | _ => rfl

theorem rids_of_entry {r : Record} (hentry : worker.entry o b = some r) :
    worker.rids worker' = [] := by
  cases worker with
  | sweeping name begun sweep => cases hentry
  | _ => rfl

theorem Account.after_of_entry {r : Record} (hentry : worker.entry o b = some r)
    (hnext : worker'.result? = none) : a.after m worker worker' = a := by
  have hopens : worker.opens m = none := by
    cases worker with
    | sweeping name begun sweep => cases hentry
    | _ => rfl
  rw [after, hopens, rids_of_entry hentry, hnext, List.append_nil]
  rfl

theorem Acts.loses (h : Acts uids.directory o id b m worker worker' b' m') :
    m.Loses m' (worker.rids worker') := by
  cases h with
  | note hentry _ =>
      rw [rids_of_entry hentry]
      exact ⟨(Memory.without_nil m.rows).symm, (List.append_nil _).symm, rfl, rfl, rfl, rfl⟩
  | die hentry _ =>
      rw [rids_of_entry hentry]
      exact .refl m
  | sweep _ hmoves => exact hmoves.loses rfl
  | rest hover =>
      rw [rids_of_free (metric_of_isOver hover)]
      exact .refl m
  | _ => exact .refl m

theorem Acts.total (h : Acts uids.directory o id b m worker worker' b' m') :
    b'.total = b.total := by
  cases h with
  | note => exact Worker.afterEntry_total o b worker
  | _ => rfl

theorem Acts.tally (h : Acts uids.directory o id b m worker worker' b' m') :
    b'.tally = worker'.result?.toList.foldr Tally.add b.tally := by
  cases h with
  | note =>
      rw [Worker.afterEntry_result?, Worker.afterEntry_tally]
      rfl
  | rest hover =>
      rw [result_of_free (metric_of_isOver hover)]
      rfl
  | _ => rfl

theorem Acts.queue_kept (h : Acts uids.directory o id b m worker worker' b' m')
    (hmetric : metric ∈ b.queue) : metric ∈ b'.queue ∨ worker'.metric? = some metric := by
  cases h with
  | claim hqueue =>
      rw [hqueue] at hmetric
      rcases List.mem_cons.mp hmetric with rfl | hlater
      · exact .inr rfl
      · exact .inl hlater
  | note =>
      rw [Worker.afterEntry_queue]
      exact .inl hmetric
  | _ => exact .inl hmetric

theorem Acts.stops (h : Acts uids.directory o id b m worker worker' b' m')
    (hstopped : worker' = .stopped) : worker = .stopped ∨ b'.queue = [] := by
  cases h with
  | stop hqueue => exact .inr hqueue
  | note =>
      have hover := Worker.afterEntry_isOver o b worker
      rw [hstopped] at hover
      cases hover
  | rest => exact .inl hstopped
  | _ => cases hstopped

theorem ne_nil_of_refused {r : Record}
    (hheld : m.heldRecords.contains (r.metric, r.status) = true) : m.heldRecords ≠ [] := by
  intro hnone
  rw [hnone] at hheld
  cases hheld

theorem Acts.dies (h : Acts uids.directory o id b m worker worker' b' m') {f : Fault}
    (hdead : worker' = .dead f) : worker = .dead f ∨ m.heldRecords ≠ [] := by
  cases h with
  | die _ hheld => exact .inr (ne_nil_of_refused hheld)
  | note =>
      have hover := Worker.afterEntry_isOver o b worker
      rw [hdead] at hover
      cases hover
  | rest => exact .inl hdead
  | _ => cases hdead

theorem Acts.takes (h : Acts uids.directory o id b m worker worker' b' m')
    (hfree : worker.metric? ≠ some metric) (hmetric : worker'.metric? = some metric) :
    worker' = .announcing metric ∧ metric ∈ b.queue := by
  cases h with
  | stop => cases hmetric
  | claim hqueue =>
      cases hmetric
      exact ⟨rfl, by rw [hqueue]; exact List.mem_cons_self⟩
  | note hentry _ =>
      cases worker with
      | announcing name => exact absurd hmetric hfree
      | _ => cases hmetric
  | die => cases hmetric
  | _ => exact absurd hmetric hfree

theorem plan_of_onTime {begun : Quantity} {read : Except Fault (List Query)}
    (htime : (.reading metric begun : Worker Memory.Cursor).OnTime o times b)
    (hread : Query.read uids.directory o.layout (o.now b.looks) (words o metric) = read) :
    plan uids o times metric = read := by
  rw [plan, htime metric rfl, hread]

/-- A worker that stays with its metric goes on to follow its account. -/
theorem Acts.follows (h : Acts uids.directory o id b m worker worker' b' m')
    (hstop : Aggregator.ofWord? o.stop = none) (htime : worker.OnTime o times b)
    (hfollows : worker.Follows (plan uids o times) m.heldKeys noted a)
    (hmetric : worker.metric? = some metric) (hstays : worker'.metric? = some metric) :
    worker'.Follows (plan uids o times) m.heldKeys (noted ++ remarks metric (worker.entries o b m))
      (a.after m worker worker') := by
  cases h with
  | stop => cases hmetric
  | claim => cases hmetric
  | note hentry hheld =>
      cases worker with
      | announcing name =>
          cases hmetric
          obtain ⟨rfl, rfl⟩ := hfollows
          have hremark := remarks_entries hentry hheld
          cases hentry
          exact ⟨hremark, rfl⟩
      | confirming | rejecting => cases hstays
      | _ => cases hentry
  | die => cases hstays
  | read hread =>
      obtain ⟨rfl, rfl⟩ := hfollows
      obtain ⟨q, rfl, -⟩ := read_words uids hstop hread
      exact ⟨rfl, rfl, q, plan_of_onTime htime hread, rfl, rfl, rfl, rfl, rfl⟩
  | misread hread =>
      obtain ⟨rfl, rfl⟩ := hfollows
      exact ⟨rfl, rfl, .inl ⟨_, plan_of_onTime htime hread, rfl, rfl, rfl⟩⟩
  | sweep _ hmoves =>
      obtain ⟨rfl, hresult, q, hplan, hdrains⟩ := hfollows
      exact ⟨rfl, hresult, q, hplan, hdrains.move hmoves rfl rfl⟩
  | finish hresult | giveUp hresult =>
      obtain ⟨rfl, -, q, hplan, hdrains⟩ := hfollows
      exact ⟨rfl, rfl, .inr ⟨q, hplan, Sweep.Drains.ends hdrains hresult⟩⟩
  | rest hover =>
      rw [metric_of_isOver hover] at hmetric
      cases hmetric

theorem Acts.result_fresh (h : Acts uids.directory o id b m worker worker' b' m')
    {held : List Bytes} (hfollows : worker.Follows (plan uids o times) held noted a) :
    worker'.result? = none ∨ a.result = none := by
  cases h with
  | misread =>
      obtain ⟨-, rfl⟩ := hfollows
      exact .inr rfl
  | finish | giveUp => exact .inr hfollows.2.1
  | note => exact .inl (Worker.afterEntry_result? o b worker)
  | rest hover => exact .inl (result_of_free (metric_of_isOver hover))
  | _ => exact .inl rfl

theorem Acts.result_of_free (h : Acts uids.directory o id b m worker worker' b' m')
    (hfree : worker.metric? = none) : worker'.result? = none := by
  cases h with
  | stop | claim => rfl
  | note => exact Worker.afterEntry_result? o b worker
  | die => rfl
  | rest => exact Purge.result_of_free hfree
  | _ => cases hfree

theorem Acts.leaves (h : Acts uids.directory o id b m worker worker' b' m')
    (hfollows : worker.Follows (plan uids o times) m.heldKeys noted a)
    (hmetric : worker.metric? = some metric) (hleft : worker'.metric? ≠ some metric) :
    Left (plan uids o times metric) m.heldKeys m.heldRecords
      (noted ++ remarks metric (worker.entries o b m)) (a.after m worker worker') := by
  cases h with
  | stop => cases hmetric
  | claim => cases hmetric
  | note hentry hheld =>
      rw [Account.after_of_entry hentry (Worker.afterEntry_result? o b worker)]
      have hremark := remarks_entries hentry hheld
      cases worker with
      | announcing name => exact absurd hmetric hleft
      | confirming name rows spent =>
          cases hentry
          cases hmetric
          obtain ⟨rfl, hsettles⟩ := hfollows
          exact .closed (r := .ok rows) (congrArg _ hremark) hsettles
      | rejecting name fault spent =>
          cases hentry
          cases hmetric
          obtain ⟨rfl, hsettles⟩ := hfollows
          exact .closed (r := .error fault) (congrArg _ hremark) hsettles
      | _ => cases hentry
  | die hentry hheld =>
      have hrecords := ne_nil_of_refused hheld
      rw [Account.after_of_entry hentry rfl, remarks_refused hentry hheld, List.append_nil]
      cases worker with
      | announcing name =>
          obtain ⟨rfl, rfl⟩ := hfollows
          exact .unbegun rfl rfl hrecords
      | confirming name rows spent | rejecting name fault spent =>
          cases hmetric
          obtain ⟨rfl, hsettles⟩ := hfollows
          exact .unclosed rfl hsettles hrecords
      | _ => cases hentry
  | rest hover =>
      rw [metric_of_isOver hover] at hmetric
      cases hmetric
  | _ => exact absurd hmetric hleft

end Acts

end Purge

end RawSeries
