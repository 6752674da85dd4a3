import RawSeries.Proofs.CellLookup
import RawSeries.Proofs.ScannerSessions

namespace RawSeries

open Gateway

namespace RemoteDirectory

variable {s : Session} {c : Cursor} {own : String} {tables : List (String × CellTable)} {n : Nat}
  {cut : List (List ScanCell)}

theorem enough_run {answers : List Answer} (h : s.Lends c.location own tables n answers) :
    (enough c).run.run s = (.ok (answers.length + 2), s) := by
  obtain ⟨asked, hasked, -, hown⟩ := h.asked
  have hpages : s.service.pages own = answers := by simp [h.service, Service.pages]
  rw [enough, Task.get_bind_run, hasked]
  simp only [hown, hpages]
  rfl

theorem search_run {key qualifier : Bytes} {value : Option Bytes}
    (h : s.Lends c.location own tables n (cut.map pageAnswer)) (hrests : c.Rests cut)
    (hcome : c.toCome cut.flatten =
      (value.map fun v => (⟨key, [⟨qualifier, v⟩]⟩ : Row)).toList) (steps : Nat) :
    ∃ s' answers, (search key qualifier (steps + 1) c).run.run s = (.ok value, s') ∧
      s'.Lends c.location own tables n answers ∧ s.Fetches s' ∧
      s'.names = s.names ∧ s'.ids = s.ids := by
  obtain ⟨turn, left, s', hrun, hright, hlends, hfetches, hnames, hids⟩ :=
    Session.next_lends h hrests
  refine ⟨s', left.map pageAnswer, ?_, hlends, hfetches, hnames, hids⟩
  rw [search, Task.lift_bind_run, hrun]
  rcases hright.handed with ⟨hnone, hempty⟩ | ⟨rows, hrows, hne, hsome, -⟩
  · rw [hcome] at hempty
    cases value with
    | none => rw [hnone]; rfl
    | some v => cases hempty
  · rw [hcome] at hsome
    cases value with
    | none =>
        have hnil : rows ++ turn.cursor.toCome left.flatten = [] := hsome.symm
        exact absurd (List.append_eq_nil_iff.mp hnil).1 hne
    | some v =>
        have hvalue : valueIn key qualifier [⟨key, [⟨qualifier, v⟩]⟩] = some v := by simp [valueIn]
        -- There is one row to come, so that the first rows are all of them.
        rcases List.append_eq_singleton_iff.mp hsome.symm with ⟨hnil, -⟩ | ⟨hfirst, -⟩
        · exact absurd hnil hne
        · rw [hrows, hfirst]
          simp only [hvalue]
          rfl

theorem column_eq (family : String) (kind : UidKind) :
    column family kind = Bytes.ascii family ++ CellSet.colon :: Bytes.ascii kind.word := by
  simp [column, Bytes.ascii]
  rfl

variable {d : RemoteDirectory} {t : CellTable} {segment location : String} {last : Nat}
  {kind : UidKind}

theorem lent_column (hdistinct : t.Distinct) {family : String}
    (hfamily : CellSet.colon ∉ Bytes.ascii family) {start stop : Bytes} {batch : Nat}
    (h : s.Lends location own tables n (t.answers ⟨start, stop, batch, [column family kind]⟩)) :
    let c := Cursor.ofLocation location (Session.familyOf [column family kind]) fun _ => true
    ∃ cut, s.Lends c.location own tables n (cut.map pageAnswer) ∧ c.Rests cut ∧
      c.callsLeft cut = cut.length + 1 ∧
      c.toCome cut.flatten = t.cellsIn start stop (column family kind) (Bytes.ascii kind.word) ∧
      (enough c).run.run s = (.ok (cut.length + 2), s) := by
  intro c
  obtain ⟨cut, hanswers, hcut⟩ := answers_eq_map t ⟨start, stop, batch, [column family kind]⟩
  have hlends : s.Lends c.location own tables n (cut.map pageAnswer) := hanswers ▸ h
  have hrests : c.Rests cut := fun hdone => absurd (show false = true from hdone) (by decide)
  refine ⟨cut, hlends, hrests, rfl, ?_, by simpa using enough_run hlends⟩
  rw [hcut]
  simp only [c, column_eq]
  exact CellTable.toCome_column hdistinct hfamily _ _ _ _ _

theorem single_run (hdistinct : t.Distinct) {key : Bytes} {family : String}
    (hfamily : CellSet.colon ∉ Bytes.ascii family)
    (h : s.Lends location own tables n
      (t.answers ⟨key, after key, 1, [column family kind]⟩)) :
    let c := Cursor.ofLocation location (Session.familyOf [column family kind]) fun _ => true
    ∃ s' answers,
      (do search key (Bytes.ascii kind.word) (← enough c) c : Task Session _).run.run s =
          (.ok (t.value? key (column family kind)), s') ∧
        s'.Lends location own tables n answers ∧ s.Fetches s' ∧
        s'.names = s.names ∧ s'.ids = s.ids := by
  intro c
  obtain ⟨cut, hlends, hrests, -, hcome, henough⟩ := lent_column hdistinct hfamily h
  rw [CellTable.cellsIn_single hdistinct] at hcome
  rw [Task.bind_of_ok henough]
  exact search_run hlends hrests hcome (cut.length + 1)

theorem cell_run (htable : tables.lookup (Service.nameOf segment) = some t)
    (hdistinct : t.Distinct) (hready : s.Ready tables d.table segment last n) (hn : n + 1 ≤ last)
    (key : Bytes) {family : String} (hfamily : CellSet.colon ∉ Bytes.ascii family)
    (kind : UidKind) :
    ∃ s', (d.cell key family kind).run.run s = (.ok (t.value? key (column family kind)), s') ∧
      s'.Ready tables d.table segment last (n + 1) ∧ Session.Tends segment n 1 s s' ∧
      s'.names = s.names ∧ s'.ids = s.ids := by
  let work (c : Cursor) : Task Session (Option Bytes) := do
    search key (Bytes.ascii kind.word) (← enough c) c
  obtain ⟨c, s₁, s', hopen, hrun, hready', htends, hnames, hids⟩ :=
    Session.scanner_run work (.ok (t.value? key (column family kind)))
      (fun names ids => names = s.names ∧ ids = s.ids) hready htable hn
      ⟨key, after key, 1, [column family kind]⟩ (fun _ => true)
      fun location s₁ hnames hids hlends => by
        obtain ⟨s₂, answers, hwork, hlends', hfetches, hnames', hids'⟩ :=
          single_run hdistinct hfamily hlends
        exact ⟨s₂, answers, hwork, hlends', hfetches, hnames'.trans hnames, hids'.trans hids⟩
  refine ⟨s', ?_, hready', htends, hnames, hids⟩
  rw [cell, Task.bind_of_ok hopen]
  exact hrun

open CellTable (upTo)

theorem upTo_eq_self {limit : Option Nat} {found names : List String}
    (h : wantsMore limit found.length = true) (hlength : names.length ≤ found.length + 1) :
    upTo limit names = names := by
  cases limit with
  | none => rfl
  | some count =>
      have hfewer : found.length < count := by simpa [wantsMore] using h
      exact List.take_of_length_le (by omega)

theorem upTo_append_eq_self {limit : Option Nat} {found : List String}
    (h : wantsMore limit found.length = false) (hfits : upTo limit found = found)
    (more : List String) : upTo limit (found ++ more) = found := by
  cases limit with
  | none => cases h
  | some count =>
      have hall : count ≤ found.length := by simpa [wantsMore] using h
      exact (List.take_append_of_le_length hall).trans hfits

theorem upTo_append_upTo (limit : Option Nat) (names more : List String) :
    upTo limit (upTo limit names ++ more) = upTo limit (names ++ more) := by
  cases limit with
  | none => rfl
  | some count =>
      by_cases hall : count ≤ names.length
      · have htaken : count ≤ (names.take count).length := by
          rw [List.length_take]
          omega
        simp only [upTo]
        rw [List.take_append_of_le_length htaken, List.take_append_of_le_length hall,
          List.take_take, Nat.min_self]
      · simp only [upTo]
        rw [List.take_of_length_le (Nat.le_of_not_le hall)]

variable {limit : Option Nat} {steps : Nat} {found : List String}

/-- The unique IDs that were seen stand in a table. -/
def Stand (t : CellTable) (ids : List ((UidKind × String) × Bytes)) : Prop :=
  ∀ entry ∈ ids, t.directory.id entry.1.1 entry.1.2 = .ok entry.2

/-- A row with nothing but the unique ID of its name. -/
def Holds (t : CellTable) (kind : UidKind) (row : Row) : Prop :=
  ∃ c, row.columns = [c] ∧ t.directory.id kind (Bytes.toLatin row.key) = .ok c.value

theorem mem_of_lookup {α β : Type} [BEq α] [LawfulBEq α] {pairs : List (α × β)} {a : α} {b : β}
    (h : pairs.lookup a = some b) : (a, b) ∈ pairs := by
  obtain ⟨before, later, rfl, -⟩ := List.lookup_eq_some_iff.mp h
  simp

/-- Unique IDs are noted on top of others: all of them stand in a table, and those of some names are
among them. -/
def Notes (t : CellTable) (kind : UidKind) (names : List String)
    (ids ids' : List ((UidKind × String) × Bytes)) : Prop :=
  ∃ noted, ids' = noted ++ ids ∧ Stand t noted ∧
    ∀ name ∈ names, (noted.lookup (kind, name)).isSome

section Notes

variable {names names' : List String} {ids ids' ids'' : List ((UidKind × String) × Bytes)}

theorem Notes.refl (t : CellTable) (kind : UidKind) (ids : List ((UidKind × String) × Bytes)) :
    Notes t kind [] ids ids :=
  ⟨[], rfl, nofun, nofun⟩

theorem Notes.trans (h : Notes t kind names ids ids') (h' : Notes t kind names' ids' ids'') :
    Notes t kind (names ++ names') ids ids'' := by
  obtain ⟨noted, rfl, hstand, hseen⟩ := h
  obtain ⟨later, rfl, hstand', hseen'⟩ := h'
  refine ⟨later ++ noted, (List.append_assoc ..).symm, List.forall_mem_append.mpr ⟨hstand', hstand⟩,
    ?_⟩
  intro name hname
  rw [List.lookup_append, Option.isSome_or, Bool.or_eq_true]
  exact (List.mem_append.mp hname).elim (fun h => .inr (hseen name h)) fun h => .inl (hseen' name h)

theorem Notes.suffix (h : Notes t kind names ids ids') : ids <:+ ids' := by
  obtain ⟨noted, rfl, -⟩ := h
  exact List.suffix_append noted ids

theorem Notes.lookup_eq (h : Notes t kind names ids ids') {name : String} (hname : name ∈ names) :
    ∃ uid, ids'.lookup (kind, name) = some uid ∧ t.directory.id kind name = .ok uid := by
  obtain ⟨noted, rfl, hstand, hseen⟩ := h
  obtain ⟨uid, huid⟩ := Option.isSome_iff_exists.mp (hseen name hname)
  exact ⟨uid, by rw [List.lookup_append, huid, Option.some_or], hstand _ (mem_of_lookup huid)⟩

end Notes

theorem takeNames_run {rows : List Row} (hmore : wantsMore limit found.length = true)
    (hrows : ∀ row ∈ rows, Holds t kind row) :
    ∃ new ids, upTo limit (found ++ rows.map fun row => Bytes.toLatin row.key) = found ++ new ∧
      (takeNames kind limit rows found).run.run s = (.ok (found ++ new), { s with ids }) ∧
      Notes t kind new s.ids ids := by
  induction rows generalizing found s with
  | nil =>
      refine ⟨[], s.ids, upTo_eq_self hmore (by simp), ?_, .refl t kind s.ids⟩
      rw [List.append_nil]
      rfl
  | cons row rows ih =>
      obtain ⟨⟨c, hcolumns, hid⟩, hmore'⟩ := List.forall_mem_cons.mp hrows
      let name := Bytes.toLatin row.key
      let noted : Session := { s with ids := ((kind, name), c.value) :: s.ids }
      have hnotes : Notes t kind [name] s.ids noted.ids :=
        ⟨[((kind, name), c.value)], rfl, List.forall_mem_singleton.mpr hid,
          List.forall_mem_singleton.mpr (by simp)⟩
      have hrun : (takeNames kind limit (row :: rows) found).run.run s =
          (if wantsMore limit (found ++ [name]).length then
            takeNames kind limit rows (found ++ [name])
          else pure (found ++ [name]) : Task Session _).run.run noted := by
        rw [takeNames, hcolumns]
        rfl
      have hfits : upTo limit (found ++ [name]) = found ++ [name] :=
        upTo_eq_self hmore (by simp)
      have hnames : (found ++ (row :: rows).map fun row => Bytes.toLatin row.key) =
          (found ++ [name]) ++ rows.map fun row => Bytes.toLatin row.key := by simp [name]
      rw [hrun, hnames]
      cases hwants : wantsMore limit (found ++ [name]).length with
      | true =>
          obtain ⟨new, ids, htaken, hrest, hnotes'⟩ := ih (s := noted) hwants hmore'
          refine ⟨[name] ++ new, ids, ?_, ?_, hnotes.trans hnotes'⟩
          · rw [htaken, List.append_assoc]
          · rw [← List.append_assoc]
            exact hrest
      | false => exact ⟨[name], noted.ids, upTo_append_eq_self hwants hfits _, rfl, hnotes⟩

theorem collect_run (h : s.Lends c.location own tables n (cut.map pageAnswer))
    (hrests : c.Rests cut) (hsteps : c.callsLeft cut < steps) (hfits : upTo limit found = found)
    (hrows : ∀ row ∈ c.toCome cut.flatten, Holds t kind row) :
    ∃ new s' answers,
      upTo limit (found ++ (c.toCome cut.flatten).map fun row => Bytes.toLatin row.key) =
        found ++ new ∧
      (collect kind limit steps c found).run.run s = (.ok (found ++ new), s') ∧
      s'.Lends c.location own tables n answers ∧ s.Fetches s' ∧ s'.names = s.names ∧
      Notes t kind new s.ids s'.ids := by
  -- Each call for rows uses up a step, and what was found so far is within the limit.
  induction steps generalizing s c cut found with
  | zero => exact absurd hsteps (Nat.not_lt_zero _)
  | succ steps ih =>
      cases hwants : wantsMore limit found.length with
      | false =>
          refine ⟨[], s, cut.map pageAnswer, ?_, ?_, h, .refl s, rfl, .refl t kind s.ids⟩
          · rw [upTo_append_eq_self hwants hfits, List.append_nil]
          · rw [collect, hwants, List.append_nil]
            rfl
      | true =>
          obtain ⟨turn, left, s₁, hrun, hright, hlends, hfetches, hnames, hsame⟩ :=
            Session.next_lends h hrests
          rw [collect, hwants]
          simp only [if_true]
          rw [Task.lift_bind_run, hrun]
          rcases hright.handed with ⟨hnone, hempty⟩ | ⟨rows, hsome, -, hcome, hfewer⟩
          · refine ⟨[], s₁, left.map pageAnswer, ?_, ?_, hlends, hfetches, hnames,
              hsame ▸ .refl t kind s.ids⟩
            · rw [hempty, List.map_nil, List.append_nil, hfits]
            · rw [hnone, List.append_nil]
              rfl
          · rw [hcome] at hrows ⊢
            obtain ⟨hhere, hlater⟩ := List.forall_mem_append.mp hrows
            obtain ⟨new, ids, htaken, htake, hnotes⟩ := takeNames_run (s := s₁) hwants hhere
            have hfits' : upTo limit (found ++ new) = found ++ new := by
              rw [← htaken]
              simpa using
                upTo_append_upTo limit (found ++ rows.map fun row => Bytes.toLatin row.key) []
            let s₂ : Session := { s₁ with ids }
            have hlends₂ : s₂.Lends turn.cursor.location own tables n (left.map pageAnswer) := by
              rw [hright.location]
              exact ⟨hlends.goesOn, hlends.asked, hlends.service⟩
            obtain ⟨later, s', answers, htaken', hcollect, hlends', hfetches', hnames', hnotes'⟩ :=
              ih hlends₂ hright.rests (by omega) hfits' hlater
            have hlearns : s₁.Fetches s₂ :=
              ⟨rfl, List.suffix_rfl, hnotes.suffix, [], (List.append_nil _).symm, nofun⟩
            refine ⟨new ++ later, s', answers, ?_, ?_, hright.location ▸ hlends',
              hfetches.trans (hlearns.trans hfetches'), hnames'.trans hnames,
              (hsame ▸ hnotes).trans hnotes'⟩
            · rw [List.map_append, ← List.append_assoc, ← upTo_append_upTo, htaken, htaken',
                List.append_assoc]
            · rw [← List.append_assoc, ← hcollect, hsome]
              exact Task.bind_of_ok htake _

/-- The scan of the names of a kind finds them, and notes their unique IDs. -/
theorem names_run (hdistinct : t.Distinct) {start : Bytes} {batch : Nat}
    (h : s.Lends location own tables n
      (t.answers ⟨(range start).1, (range start).2, batch, [column idFamily kind]⟩)) :
    let c := Cursor.ofLocation location (Session.familyOf [column idFamily kind]) fun _ => true
    ∃ s' answers,
      (do collect kind limit (← enough c) c [] : Task Session _).run.run s =
          (.ok (upTo limit (t.namesOf kind start)), s') ∧
        s'.Lends location own tables n answers ∧ s.Fetches s' ∧ s'.names = s.names ∧
        Notes t kind (upTo limit (t.namesOf kind start)) s.ids s'.ids := by
  intro c
  have hfamily : CellSet.colon ∉ Bytes.ascii idFamily := by decide
  obtain ⟨cut, hlends, hrests, hcalls, hcome, henough⟩ := lent_column hdistinct hfamily h
  have hrows : ∀ row ∈ c.toCome cut.flatten, Holds t kind row := by
    intro row hrow
    obtain ⟨value, hvalue, hsame⟩ := CellTable.eq_of_mem_cellsIn hdistinct (hcome ▸ hrow)
    refine ⟨⟨Bytes.ascii kind.word, value⟩, by rw [hsame], ?_⟩
    exact (CellTable.id_eq_ok_iff t kind _ _).mpr ⟨row.key, rfl, hvalue⟩
  have hsteps : c.callsLeft cut < cut.length + 2 := hcalls ▸ Nat.lt_succ_self _
  have hfits : upTo limit [] = [] := by cases limit <;> simp [upTo]
  obtain ⟨names, s', answers, htaken, hcollect, hlends', hfetches, hnames, hnotes⟩ :=
    collect_run hlends hrests hsteps hfits hrows
  have hall : upTo limit (t.namesOf kind start) = names := by
    rw [hcome, List.nil_append, CellTable.map_key_cellsIn] at htaken
    exact htaken
  rw [hall]
  exact ⟨s', answers, (Task.bind_of_ok henough _).trans hcollect, hlends', hfetches, hnames, hnotes⟩

end RemoteDirectory

end RawSeries
