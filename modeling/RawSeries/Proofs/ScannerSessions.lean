import RawSeries.Proofs.GatewayScan
import RawSeries.Proofs.Numerals
import RawSeries.Proofs.SentRequests
import RawSeries.Proofs.TextParts

namespace RawSeries

namespace Gateway

namespace Service

def scannerPath (segment : String) (n : Nat) : String :=
  "/" ++ segment ++ "/scanner/" ++ Numeral.natural n

theorem slash_not_mem_segment {path segment : String} (h : segment ∈ segments path) :
    '/' ∉ segment.toList := by
  obtain ⟨part, hpart, rfl⟩ := List.mem_map.mp h
  rw [String.toList_ofList]
  exact (Text.splitOn_parts '/' path.toList).2 part hpart

theorem segments_scannerPath {segment : String} (h : '/' ∉ segment.toList) (n : Nat) :
    segments (scannerPath segment n) = ["", segment, "scanner", Numeral.natural n] := by
  have hpath : (scannerPath segment n).toList =
      [] ++ '/' :: (segment.toList ++ '/' :: ("scanner".toList ++
        '/' :: (Numeral.natural n).toList)) := by
    simp [scannerPath]
  have hslash : '/' ∉ (Numeral.natural n).toList := by
    intro hmem
    have hall : ∀ c ∈ (Numeral.natural n).toList, c ≠ '/' := Numeral.natural_all (by decide) n
    exact hall '/' hmem rfl
  rw [segments, hpath, Text.splitOn_append (by simp), Text.splitOn_append h,
    Text.splitOn_append (by decide), Text.splitOn_of_not_mem hslash]
  simp

end Service

def Event.pathOf? (method : String) : Event → Option String
  | .request own path _ => if own = method then some path else none
  | _ => none

/-- A table can be asked for scanners below an address, and so can its scanners up to a number. -/
structure Address.Serves (base : Address) (table segment : String) (last : Nat) : Prop where
  ascii : segment.toList.all Label.isAscii = true
  scan : ∃ asked, base.resolve ("/" ++ table ++ "/scanner") = .ok asked ∧
    asked.isSendable = true ∧
    Service.segments (String.ofList asked.target) = ["", segment, "scanner"]
  scanners : ∀ n ≤ last, ∃ asked,
    base.resolve ("http://gw" ++ Service.scannerPath segment n) = .ok asked ∧
    asked.isSendable = true ∧ String.ofList asked.target = Service.scannerPath segment n

namespace Session

/-- A gateway has lent its only scanner to a session, with these answers left. -/
structure Lends (s : Session) (location own : String) (tables : List (String × CellTable))
    (n : Nat) (answers : List Answer) : Prop where
  goesOn : s.ended = false
  asked : ∃ asked, s.base.resolve location = .ok asked ∧ asked.isSendable = true ∧
    String.ofList asked.target = own
  service : s.service = .serving tables [(own, answers)] n

/-- Pages were fetched, and nothing else was asked for; what was seen before is still known. -/
structure Fetches (s s' : Session) : Prop where
  base : s'.base = s.base
  names : s.names <:+ s'.names
  ids : s.ids <:+ s'.ids
  events : ∃ gets, s'.events = s.events ++ gets ∧ ∀ e ∈ gets, ∃ path, e = .request "GET" path none

theorem Fetches.refl (s : Session) : s.Fetches s :=
  ⟨rfl, List.suffix_rfl, List.suffix_rfl, [], (List.append_nil _).symm, nofun⟩

theorem Fetches.trans {s s' s'' : Session} (h : s.Fetches s') (h' : s'.Fetches s'') :
    s.Fetches s'' := by
  obtain ⟨gets, hevents, hgets⟩ := h.events
  obtain ⟨more, hevents', hmore⟩ := h'.events
  refine ⟨h'.base.trans h.base, h.names.trans h'.names, h.ids.trans h'.ids, gets ++ more, ?_, ?_⟩
  · rw [hevents', hevents, List.append_assoc]
  · intro e he
    exact (List.mem_append.mp he).elim (hgets e) (hmore e)

theorem await_events {asked : Address} (h : asked.isSendable = true) (c : Cursor) (before : Nat)
    (cut : List (List ScanCell)) :
    ∀ e ∈ (c.await asked before (cut.map pageAnswer)).events,
      ∃ path, e = .request "GET" path none := by
  induction cut generalizing c before with
  | nil =>
      intro e he
      exact ⟨_, List.mem_singleton.mp he⟩
  | cons page cut ih =>
      rw [List.map_cons, Cursor.await_cons h]
      intro e he
      split at he
      · rcases List.mem_append.mp he with he | he
        · exact ⟨_, List.mem_singleton.mp he⟩
        · exact ih _ 0 e he
      · exact ⟨_, List.mem_singleton.mp he⟩

variable {s : Session} {c : Cursor} {own : String} {tables : List (String × CellTable)} {n : Nat}
  {cut : List (List ScanCell)}

theorem next_lends (h : s.Lends c.location own tables n (cut.map pageAnswer))
    (hrests : c.Rests cut) :
    ∃ t left s', (next c).run s = ((t.result, t.cursor), s') ∧ Turn.IsRight t c cut left ∧
      s'.Lends c.location own tables n (left.map pageAnswer) ∧ s.Fetches s' ∧
      s'.names = s.names ∧ s'.ids = s.ids := by
  obtain ⟨hgoes, ⟨asked, hasked, hsend, hown⟩, hservice⟩ := h
  obtain ⟨left, hright⟩ := Cursor.next_isRight hsend c cut hrests
  have hpages : s.service.pages own = cut.map pageAnswer := by
    simp [hservice, Service.pages]
  have hrun := next_run hasked hgoes
  simp only [hown, hpages] at hrun
  refine ⟨c.next asked (cut.map pageAnswer), left, _, hrun, hright, ⟨hgoes, ?_, ?_⟩,
    ⟨rfl, List.suffix_rfl, List.suffix_rfl, ?_⟩, rfl, rfl⟩
  · exact ⟨asked, hasked, hsend, hown⟩
  · simp [hservice, Service.setPages, hright.remains]
  · refine ⟨_, rfl, ?_⟩
    unfold Cursor.next
    split
    · simp
    · exact await_events hsend c 0 cut

end Session

/-- The answer that names a scanner. -/
def lending (location : String) : Answer :=
  ⟨201, [("Location", location)], .text ""⟩

theorem header_lending (location : String) :
    (lending location).header? "Location" = some location := by
  have hsame : (Answer.lower "Location" == Answer.lower "Location") = true := by simp
  simp only [Answer.header?, lending, List.filter_cons, hsame]
  rfl

theorem check_lending {asked : Address} (h : asked.isSendable = true) {location : String}
    (hascii : location.toList.all Label.isAscii = true) :
    (lending location).check asked = .ok () := by
  have hwritable : (lending location).unwritable? = none := by
    apply List.find?_eq_none.mpr
    intro text htext
    obtain rfl | rfl : text = "Location" ∨ text = location := by simpa [lending] using htext
    · decide
    · rw [hascii]
      decide
  have hother : (Answer.lower "Location" == Answer.lower "Content-Encoding") = false := by decide
  have hpacked : (lending location).isPacked = false := by
    have hnone : (lending location).header? "Content-Encoding" = none := by
      simp only [Answer.header?, lending, List.filter_cons, hother]
      rfl
    rw [Answer.isPacked, hnone]
    decide
  exact Answer.check_of_plain hwritable hpacked rfl h

namespace Address

variable {base : Address} {table segment : String} {last : Nat}

theorem Serves.slash_not_mem (h : base.Serves table segment last) : '/' ∉ segment.toList := by
  obtain ⟨asked, -, -, hsegments⟩ := h.scan
  have hsegment : segment ∈ Service.segments (String.ofList asked.target) := by simp [hsegments]
  exact Service.slash_not_mem_segment hsegment

theorem Serves.ascii_location (h : base.Serves table segment last) (n : Nat) :
    ("http://gw" ++ Service.scannerPath segment n).toList.all Label.isAscii = true := by
  have hnumeral : (Numeral.natural n).toList.all Label.isAscii = true :=
    List.all_eq_true.mpr (Numeral.natural_all (by decide) n)
  have hsegment := h.ascii
  simp only [Service.scannerPath, String.toList_append, List.all_append, hnumeral, hsegment]
  decide

end Address

namespace Session

variable {s s₁ : Session} {table segment own : String} {tables : List (String × CellTable)}
  {t : CellTable} {n last : Nat} {answers : List Answer}

theorem open_run (hserves : s.base.Serves table segment last)
    (htable : tables.lookup (Service.nameOf segment) = some t) (hgoes : s.ended = false)
    (hservice : s.service = .serving tables [] n) (scan : ScanRequest)
    (accept : Bytes → Bool) :
    ∃ path, (openScanner table scan accept).run.run s =
      (.ok (.ofLocation ("http://gw" ++ Service.scannerPath segment (n + 1))
          (familyOf scan.columns) accept),
        { s with
          service := .serving tables [(Service.scannerPath segment (n + 1), t.answers scan)] (n + 1)
          events := s.events ++ [.request "POST" path (some scan)] }) := by
  obtain ⟨asked, hasked, hsend, hsegments⟩ := hserves.scan
  let location := "http://gw" ++ Service.scannerPath segment (n + 1)
  have hpost : s.service.post (String.ofList asked.target) scan = (lending location,
      .serving tables [(Service.scannerPath segment (n + 1), t.answers scan)] (n + 1)) := by
    rw [hservice, Service.post, hsegments]
    simp only [htable]
    rfl
  have hcheck := check_lending hsend (hserves.ascii_location (n + 1))
  have hdemand := demand_run (send_run "POST" (some scan) hgoes hasked hpost hcheck) rfl rfl
  have hne : location ≠ "" := by simp [location]
  refine ⟨String.ofList asked.target, ?_⟩
  rw [openScanner, Task.bind_of_ok hdemand, header_lending]
  simp only [if_neg hne]
  rfl

theorem release_run {c : Cursor} (hclosed : c.closed = false)
    (hslash : '/' ∉ segment.toList)
    (h : s.Lends c.location (Service.scannerPath segment n) tables n answers) :
    (release c).run.run s = (.ok (), { s with
      service := .serving tables [] n
      events := s.events ++ [.request "DELETE" (Service.scannerPath segment n) none] }) := by
  obtain ⟨hgoes, ⟨asked, hasked, hsend, hown⟩, hservice⟩ := h
  have hdelete : s.service.delete (String.ofList asked.target) =
      (.ofStatus 200, .serving tables [] n) := by
    rw [hservice, hown, Service.delete, Service.segments_scannerPath hslash]
    simp
  have hcheck : (Answer.ofStatus 200).check asked = .ok () :=
    Answer.check_of_plain rfl (by decide) (by decide) hsend
  have hsent := send_run "DELETE" none hgoes hasked hdelete hcheck
  rw [hown] at hsent
  rw [release, hclosed]
  exact Task.bind_of_ok hsent _

theorem releasing_run {α : Type} {c : Cursor} {work : Task Session α} {r : Except Fault α}
    (hclosed : c.closed = false) (hslash : '/' ∉ segment.toList)
    (hwork : work.run.run s = (r, s₁))
    (h : s₁.Lends c.location (Service.scannerPath segment n) tables n answers) :
    (releasing c work).run.run s = (r, { s₁ with
      service := .serving tables [] n
      events := s₁.events ++ [.request "DELETE" (Service.scannerPath segment n) none] }) := by
  have hrelease := release_run hclosed hslash h
  rw [releasing, Task.bind_of_ok (Task.outcome_run hwork)]
  cases r with
  | ok a => exact Task.bind_of_ok hrelease _
  | error f => exact Task.bind_of_ok hrelease _

/-- A session is ready to ask for scanners on a table, after `n` others that are all released. -/
structure Ready (s : Session) (tables : List (String × CellTable)) (table segment : String)
    (last n : Nat) : Prop where
  goesOn : s.ended = false
  serves : s.base.Serves table segment last
  service : s.service = .serving tables [] n

/-- After `n` scanners, `k` more were asked for, and each of them was released once. What was seen
before is still known. -/
structure Tends (segment : String) (n k : Nat) (s s' : Session) : Prop where
  names : s.names <:+ s'.names
  ids : s.ids <:+ s'.ids
  events : ∃ added, s'.events = s.events ++ added ∧
    (added.filterMap (Event.pathOf? "POST")).length = k ∧
    added.filterMap (Event.pathOf? "DELETE") =
      (List.range' (n + 1) k).map (Service.scannerPath segment)

theorem Tends.refl (segment : String) (n : Nat) (s : Session) : Tends segment n 0 s s :=
  ⟨List.suffix_rfl, List.suffix_rfl, [], (List.append_nil _).symm, rfl, rfl⟩

theorem Tends.trans {s s' s'' : Session} {k k' : Nat} (h : Tends segment n k s s')
    (h' : Tends segment (n + k) k' s' s'') : Tends segment n (k + k') s s'' := by
  obtain ⟨added, hevents, hposts, hdeletes⟩ := h.events
  obtain ⟨more, hevents', hposts', hdeletes'⟩ := h'.events
  have hnext : n + k + 1 = n + 1 + k := by omega
  refine ⟨h.names.trans h'.names, h.ids.trans h'.ids, added ++ more, ?_, ?_, ?_⟩
  · rw [hevents', hevents, List.append_assoc]
  · rw [List.filterMap_append, List.length_append, hposts, hposts']
  · rw [List.filterMap_append, hdeletes, hdeletes', hnext, ← List.map_append, List.range'_append_1]

theorem pathOf?_gets {gets : List Event} (h : ∀ e ∈ gets, ∃ path, e = .request "GET" path none)
    {method : String} (hmethod : "GET" ≠ method) :
    gets.filterMap (Event.pathOf? method) = [] := by
  apply List.filterMap_eq_nil_iff.mpr
  intro e he
  obtain ⟨path, rfl⟩ := h e he
  exact if_neg hmethod

/-- Work with a new scanner that only fetches from it: the scanner is opened and, whatever comes of
the work, released. -/
theorem scanner_run {α : Type} (work : Cursor → Task Session α) (r : Except Fault α)
    (Q : List ((UidKind × Bytes) × String) → List ((UidKind × String) × Bytes) → Prop)
    (hready : s.Ready tables table segment last n)
    (htable : tables.lookup (Service.nameOf segment) = some t) (hn : n + 1 ≤ last)
    (scan : ScanRequest) (accept : Bytes → Bool)
    (hwork : ∀ location s₁, s₁.names = s.names → s₁.ids = s.ids →
      s₁.Lends location (Service.scannerPath segment (n + 1)) tables (n + 1) (t.answers scan) →
      ∃ s₂ answers, (work (.ofLocation location (familyOf scan.columns) accept)).run.run s₁ =
          (r, s₂) ∧
        s₂.Lends location (Service.scannerPath segment (n + 1)) tables (n + 1) answers ∧
        s₁.Fetches s₂ ∧ Q s₂.names s₂.ids) :
    ∃ c s₁ s', (openScanner table scan accept).run.run s = (.ok c, s₁) ∧
      (releasing c (work c)).run.run s₁ = (r, s') ∧
      s'.Ready tables table segment last (n + 1) ∧ Tends segment n 1 s s' ∧
      Q s'.names s'.ids := by
  let own := Service.scannerPath segment (n + 1)
  obtain ⟨path, hopen⟩ := open_run hready.serves htable hready.goesOn hready.service scan accept
  let s₁ : Session := { s with
    service := .serving tables [(own, t.answers scan)] (n + 1)
    events := s.events ++ [.request "POST" path (some scan)] }
  obtain ⟨s₂, answers, hrun, hlends, hfetches, hknown⟩ := hwork ("http://gw" ++ own) s₁ rfl rfl
    ⟨hready.goesOn, hready.serves.scanners (n + 1) hn, rfl⟩
  let c : Cursor := .ofLocation ("http://gw" ++ own) (familyOf scan.columns) accept
  have hrelease := releasing_run (c := c) rfl hready.serves.slash_not_mem hrun hlends
  refine ⟨c, s₁, _, hopen, hrelease, ⟨hlends.goesOn, ?_, rfl⟩, ⟨?_, ?_, ?_⟩, hknown⟩
  · exact hfetches.base ▸ hready.serves
  · exact hfetches.names
  · exact hfetches.ids
  · obtain ⟨gets, hevents, hgets⟩ := hfetches.events
    refine ⟨.request "POST" path (some scan) :: gets ++
      [.request "DELETE" own none], ?_, ?_, ?_⟩
    · simp [hevents, s₁, own]
    · simp [Event.pathOf?, pathOf?_gets hgets]
    · simp [Event.pathOf?, pathOf?_gets hgets, own]

end Session

end Gateway

end RawSeries
