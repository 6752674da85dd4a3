import RawSeries.Proofs.RemoteLookups

namespace RawSeries

open Gateway

namespace Bytes

theorem ofLatin?_eq_none_iff {s : String} :
    ofLatin? s = none ↔ ∃ c ∈ s.toList, 256 ≤ c.toNat := by
  rw [ofLatin?]
  induction s.toList with
  | nil => simp
  | cons c cs ih =>
      simp only [List.mapM_cons, List.mem_cons, exists_eq_or_imp, ← ih]
      by_cases hc : c.toNat < 256
      · rw [if_pos hc]
        cases cs.mapM fun c => if c.toNat < 256 then some (UInt8.ofNat c.toNat) else none with
        | none => exact ⟨fun _ => .inr rfl, fun _ => rfl⟩
        | some bytes => simp [hc]
      · rw [if_neg hc]
        exact ⟨fun _ => .inl (Nat.le_of_not_lt hc), fun _ => rfl⟩

end Bytes

namespace Gateway.CellTable

open RemoteDirectory (column nameFamily idFamily)

/-- A table says that a name and a unique ID belong to each other, in the row of the one or of the
other. -/
def Links (t : CellTable) (kind : UidKind) (uid : Bytes) (name : String) : Prop :=
  t.directory.name kind uid = .ok name ∨ t.directory.id kind name = .ok uid

/-- What the name of a unique ID may come to. -/
inductive NameOf (t : CellTable) (kind : UidKind) (uid : Bytes) : Except Fault String → Prop where
  | found {name : String} (h : t.Links kind uid name) : NameOf t kind uid (.ok name)
  | missing (h : t.value? uid (column nameFamily kind) = none) :
      NameOf t kind uid (.error (.unknownUid kind uid))

/-- What the unique ID of a name may come to. -/
inductive IdOf (t : CellTable) (kind : UidKind) (name : String) : Except Fault Bytes → Prop where
  | found {uid : Bytes} (h : t.Links kind uid name) : IdOf t kind name (.ok uid)
  | missing {key : Bytes} (hkey : Bytes.ofLatin? name = some key)
      (h : t.value? key (column idFamily kind) = none) :
      IdOf t kind name (.error (.unknownName kind name))
  | unwritable (h : Bytes.ofLatin? name = none) : IdOf t kind name (.error (.unwritableName name))

variable {t : CellTable} {kind : UidKind} {uid : Bytes} {name : String}

theorem Links.writable (h : t.Links kind uid name) : ∃ key, Bytes.ofLatin? name = some key := by
  rcases h with hname | hid
  · obtain ⟨value, -, hlatin⟩ := (name_eq_ok_iff t kind uid name).mp hname
    exact ⟨value, Bytes.ofLatin?_eq_some_iff.mpr hlatin⟩
  · obtain ⟨key, hlatin, -⟩ := (id_eq_ok_iff t kind name uid).mp hid
    exact ⟨key, Bytes.ofLatin?_eq_some_iff.mpr hlatin⟩

theorem NameOf.kind_eq {r : Except Fault String} (h : NameOf t kind uid r) {f : Fault}
    (hf : r = .error f) : f.kind = .resolution := by
  cases h with
  | found => cases hf
  | missing =>
      cases hf
      rfl

theorem IdOf.fails_iff {r : Except Fault Bytes} (h : IdOf t kind name r) :
    (∃ f, r = .error f ∧ f.kind ≠ .resolution) ↔ Bytes.ofLatin? name = none := by
  cases h with
  | found hlinks =>
      obtain ⟨key, hkey⟩ := hlinks.writable
      simp [hkey]
  | missing hkey =>
      simp [hkey, Fault.kind]
  | unwritable hnone =>
      simp [hnone, Fault.kind]

end Gateway.CellTable

namespace RemoteDirectory

open CellTable (NameOf IdOf)

variable {s : Session} {d : RemoteDirectory} {t : CellTable} {tables : List (String × CellTable)}
  {segment : String} {last n : Nat}

/-- A session is ready for lookups in a table, which links all that the session has seen. -/
structure Learned (t : CellTable) (tables : List (String × CellTable)) (table segment : String)
    (last n : Nat) (s : Session) : Prop where
  ready : s.Ready tables table segment last n
  names : ∀ entry ∈ s.names, t.Links entry.1.1 entry.1.2 entry.2
  ids : ∀ entry ∈ s.ids, t.Links entry.1.1 entry.2 entry.1.2

theorem Learned.noted {kind : UidKind} {uid : Bytes} {name : String}
    (h : Learned t tables d.table segment last n s) (hlinks : t.Links kind uid name) :
    Learned t tables d.table segment last n { s with
      names := ((kind, uid), name) :: s.names
      ids := ((kind, name), uid) :: s.ids } :=
  ⟨⟨h.ready.goesOn, h.ready.serves, h.ready.service⟩, List.forall_mem_cons.mpr ⟨hlinks, h.names⟩,
    List.forall_mem_cons.mpr ⟨hlinks, h.ids⟩⟩

section

variable (htable : tables.lookup (Service.nameOf segment) = some t) (hdistinct : t.Distinct)

include htable hdistinct

theorem cell_learned (h : Learned t tables d.table segment last n s) (hn : n + 1 ≤ last)
    (key : Bytes) {family : String} (hfamily : CellSet.colon ∉ Bytes.ascii family)
    (kind : UidKind) :
    ∃ s', (d.cell key family kind).run.run s = (.ok (t.value? key (column family kind)), s') ∧
      Learned t tables d.table segment last (n + 1) s' := by
  obtain ⟨s', hcell, hready, -, hnames, hids⟩ :=
    cell_run htable hdistinct h.ready hn key hfamily kind
  exact ⟨s', hcell, hready, hnames ▸ h.names, hids ▸ h.ids⟩

theorem name_learned (h : Learned t tables d.table segment last n s) (hn : n + 1 ≤ last)
    (kind : UidKind) (uid : Bytes) :
    ∃ r s' k, k ≤ 1 ∧ (d.name kind uid).run.run s = (r, s') ∧ NameOf t kind uid r ∧
      Learned t tables d.table segment last (n + k) s' := by
  cases hseen : s.names.lookup (kind, uid) with
  | some name =>
      exact ⟨.ok name, s, 0, Nat.zero_le 1, name_of_seen hseen,
        .found (h.names _ (mem_of_lookup hseen)), h⟩
  | none =>
      have hfamily : CellSet.colon ∉ Bytes.ascii nameFamily := by decide
      obtain ⟨s₁, hcell, hlearned⟩ := cell_learned htable hdistinct h hn uid hfamily kind
      rw [name_of_unseen hseen, Task.bind_of_ok hcell]
      cases hvalue : t.value? uid (column nameFamily kind) with
      | none => exact ⟨_, s₁, 1, Nat.le_refl 1, rfl, .missing hvalue, hlearned⟩
      | some value =>
          have hlinks : t.Links kind uid (Bytes.toLatin value) :=
            .inl ((CellTable.name_eq_ok_iff t kind uid _).mpr ⟨value, hvalue, rfl⟩)
          exact ⟨_, _, 1, Nat.le_refl 1, rfl, .found hlinks, hlearned.noted hlinks⟩

theorem id_learned (h : Learned t tables d.table segment last n s) (hn : n + 1 ≤ last)
    (kind : UidKind) (name : String) :
    ∃ r s' k, k ≤ 1 ∧ (d.id kind name).run.run s = (r, s') ∧ IdOf t kind name r ∧
      Learned t tables d.table segment last (n + k) s' := by
  cases hseen : s.ids.lookup (kind, name) with
  | some uid =>
      exact ⟨.ok uid, s, 0, Nat.zero_le 1, id_of_seen hseen,
        .found (h.ids _ (mem_of_lookup hseen)), h⟩
  | none =>
      rw [id_of_unseen hseen]
      cases hkey : Bytes.ofLatin? name with
      | none =>
          exact ⟨_, s, 0, Nat.zero_le 1, Task.bind_of_error (keyOf_of_none hkey s) _,
            .unwritable hkey, h⟩
      | some key =>
          have hfamily : CellSet.colon ∉ Bytes.ascii idFamily := by decide
          obtain ⟨s₁, hcell, hlearned⟩ := cell_learned htable hdistinct h hn key hfamily kind
          rw [Task.bind_of_ok (keyOf_of_some hkey s), Task.bind_of_ok hcell]
          cases hvalue : t.value? key (column idFamily kind) with
          | none => exact ⟨_, s₁, 1, Nat.le_refl 1, rfl, .missing hkey hvalue, hlearned⟩
          | some uid =>
              have hlinks : t.Links kind uid name :=
                .inr ((CellTable.id_eq_ok_iff t kind name uid).mpr
                  ⟨key, Bytes.ofLatin?_eq_some_iff.mp hkey, hvalue⟩)
              exact ⟨_, _, 1, Nat.le_refl 1, rfl, .found hlinks, hlearned.noted hlinks⟩

theorem suggest_learned (h : Learned t tables d.table segment last n s) (hn : n + 1 ≤ last)
    (start : String) (limit : Option Nat) :
    ∃ r s' k, k ≤ 1 ∧ (d.suggest .metric start limit).run.run s = (r, s') ∧
      Learned t tables d.table segment last (n + k) s' := by
  cases hkey : Bytes.ofLatin? start with
  | none =>
      refine ⟨.error (.unwritableName start), s, 0, Nat.zero_le 1, ?_, h⟩
      rw [suggest, Task.bind_of_error (keyOf_of_none hkey s)]
  | some first =>
      obtain ⟨s', hrun, hready, -, hnames, noted, hids, hstand, -⟩ :=
        suggest_noted htable hdistinct h.ready hn hkey limit
      refine ⟨_, s', 1, Nat.le_refl 1, hrun, hready, hnames ▸ h.names, ?_⟩
      rw [hids]
      exact List.forall_mem_append.mpr ⟨fun entry hentry => .inr (hstand entry hentry), h.ids⟩

end

namespace Inquiry

/-- What a lookup of a name or of a unique ID may come to. The key of a tag is looked up first. -/
inductive Resolves (t : CellTable) : Inquiry → Except Fault Reply → Prop where
  | name {uid : Bytes} {r : Except Fault String} (h : NameOf t .metric uid r) :
      Resolves t (.metricName uid) (r.map .name)
  | key {tag : Bytes × Bytes} {f : Fault} (h : NameOf t .tagKey tag.1 (.error f)) :
      Resolves t (.tagNames tag) (.error f)
  | tag {tag : Bytes × Bytes} {key : String} {r : Except Fault String}
      (hkey : NameOf t .tagKey tag.1 (.ok key)) (hvalue : NameOf t .tagValue tag.2 r) :
      Resolves t (.tagNames tag) (r.map fun value => .tag (key, value))
  | id {kind : UidKind} {name : String} {r : Except Fault Bytes} (h : IdOf t kind name r) :
      Resolves t (.id kind name) (r.map .uid)

theorem map_eq_error_iff {α β : Type} {r : Except Fault α} {g : α → β} {f : Fault} :
    r.map g = .error f ↔ r = .error f := by
  cases r <;> simp [Except.map]

/-- A lookup fails in another way than by what is not there just for the unique ID of a name with a
character beyond the first 256. -/
theorem Resolves.fails_iff {q : Inquiry} {r : Except Fault Reply} (h : Resolves t q r) :
    (∃ f, r = .error f ∧ f.kind ≠ .resolution) ↔
      ∃ kind name, q = .id kind name ∧ Bytes.ofLatin? name = none := by
  cases h with
  | name h =>
      constructor
      · rintro ⟨f, hf, hkind⟩
        exact absurd (h.kind_eq (map_eq_error_iff.mp hf)) hkind
      · rintro ⟨kind, name, hq, -⟩
        cases hq
  | key h =>
      constructor
      · rintro ⟨f, hf, hkind⟩
        cases hf
        exact absurd (h.kind_eq rfl) hkind
      · rintro ⟨kind, name, hq, -⟩
        cases hq
  | tag hkey hvalue =>
      constructor
      · rintro ⟨f, hf, hkind⟩
        exact absurd (hvalue.kind_eq (map_eq_error_iff.mp hf)) hkind
      · rintro ⟨kind, name, hq, -⟩
        cases hq
  | @id kind name r h =>
      simp only [map_eq_error_iff, h.fails_iff]
      constructor
      · intro hnone
        exact ⟨kind, name, rfl, hnone⟩
      · rintro ⟨_, _, hq, hnone⟩
        cases hq
        exact hnone

section

variable (htable : tables.lookup (Service.nameOf segment) = some t) (hdistinct : t.Distinct)

include htable hdistinct

theorem make_learned (h : Learned t tables d.table segment last n s) (hn : n + 2 ≤ last)
    (q : Inquiry) :
    ∃ r s' k, k ≤ 2 ∧ (q.make d.directory).run.run s = (r, s') ∧
      (q.isLookup = true → Resolves t q r) ∧ Learned t tables d.table segment last (n + k) s' := by
  have hone : n + 1 ≤ last := by omega
  cases q with
  | metricName uid =>
      obtain ⟨r, s', k, hk, hrun, hname, hlearned⟩ :=
        name_learned htable hdistinct h hone .metric uid
      exact ⟨r.map .name, s', k, by omega, reply_run hrun _, fun _ => .name hname, hlearned⟩
  | tagNames tag =>
      obtain ⟨first, s₁, k, hk, hrun, hkey, hlearned⟩ :=
        name_learned htable hdistinct h hone .tagKey tag.1
      cases first with
      | error f =>
          have hpair : (d.directory.tagNames tag).run.run s = (.error f, s₁) :=
            Task.bind_of_error hrun _
          exact ⟨.error f, s₁, k, by omega, reply_run hpair _, fun _ => .key hkey, hlearned⟩
      | ok key =>
          obtain ⟨second, s', k', hk', hrun', hvalue, hlearned'⟩ :=
            name_learned htable hdistinct hlearned (by omega) .tagValue tag.2
          have hpair : (d.directory.tagNames tag).run.run s =
              (second.map fun value => (key, value), s') := by
            refine (Task.bind_of_ok hrun _).trans ?_
            cases second with
            | error f => exact Task.bind_of_error hrun' _
            | ok value => exact Task.bind_of_ok hrun' _
          refine ⟨second.map fun value => .tag (key, value), s', k + k', by omega, ?_,
            fun _ => .tag hkey hvalue, Nat.add_assoc n k k' ▸ hlearned'⟩
          refine (reply_run hpair _).trans ?_
          cases second <;> rfl
  | id kind name =>
      obtain ⟨r, s', k, hk, hrun, hid, hlearned⟩ := id_learned htable hdistinct h hone kind name
      exact ⟨r.map .uid, s', k, by omega, reply_run hrun _, fun _ => .id hid, hlearned⟩
  | suggest start limit =>
      obtain ⟨r, s', k, hk, hrun, hlearned⟩ :=
        suggest_learned htable hdistinct h hone start limit
      exact ⟨_, s', k, by omega, reply_run hrun _, nofun, hlearned⟩

theorem replies_learned (h : Learned t tables d.table segment last n s) (qs : List Inquiry)
    (hn : n + 2 * qs.length ≤ last) :
    ∃ rs s' k, k ≤ 2 * qs.length ∧ (replies d qs).run s = (rs, s') ∧
      Learned t tables d.table segment last (n + k) s' := by
  induction qs generalizing s n with
  | nil => exact ⟨[], s, 0, Nat.le_refl 0, rfl, h⟩
  | cons q qs ih =>
      rw [List.length_cons] at hn
      obtain ⟨r, s₁, k, hk, hrun, -, hlearned⟩ :=
        make_learned htable hdistinct h (by omega) q
      obtain ⟨rs, s', k', hk', hruns, hlearned'⟩ := ih hlearned (by omega)
      refine ⟨r :: rs, s', k + k', by rw [List.length_cons]; omega, ?_,
        Nat.add_assoc n k k' ▸ hlearned'⟩
      have hfirst : StateT.run (q.make d.directory).run s = pure (r, s₁) := hrun
      have hrest : StateT.run (qs.mapM fun q => (q.make d.directory).run) s₁ = pure (rs, s') :=
        hruns
      simp only [replies, List.mapM_cons, StateT.run_bind, hfirst, hrest, pure_bind]
      rfl

/-- Whatever was asked for before in a session, and whether or not names and unique IDs in the table
are inverse to each other, a lookup finds what the table links to the one that is asked for, or
reports that there is none. The only other fault is that of a name with a character beyond the first
256, whose unique ID is never found. -/
theorem make_resolves {base : Address} (past : List Inquiry)
    (hserves : base.Serves d.table segment (2 * (past.length + 1))) (q : Inquiry)
    (hlookup : q.isLookup = true) :
    ∃ rs s r s', (replies d past).run (.start (.serving tables [] 0) base) = (rs, s) ∧
      (q.make d.directory).run.run s = (r, s') ∧ Resolves t q r ∧
      ((∃ f, r = .error f ∧ f.kind ≠ .resolution) ↔
        ∃ kind name, q = .id kind name ∧ ∃ c ∈ name.toList, 256 ≤ c.toNat) := by
  have hstart : Learned t tables d.table segment (2 * (past.length + 1)) 0
      (.start (.serving tables [] 0) base) := ⟨⟨rfl, hserves, rfl⟩, nofun, nofun⟩
  obtain ⟨rs, s, k, hk, hpast, hlearned⟩ := replies_learned htable hdistinct hstart past (by omega)
  obtain ⟨r, s', -, -, hrun, hresolves, -⟩ :=
    make_learned htable hdistinct hlearned (by omega) q
  refine ⟨rs, s, r, s', hpast, hrun, hresolves hlookup, ?_⟩
  simp only [(hresolves hlookup).fails_iff, Bytes.ofLatin?_eq_none_iff]

end

/-- A metric that has another unique ID in the row of its name than the one that has its name. -/
def crossedTable : CellTable :=
  [([1], [(column nameFamily .metric, [99, 112, 117])]),
    ([99, 112, 117], [(column idFamily .metric, [2])])]

theorem make_resolves_crossed :
    [("tsdb-uid", crossedTable)].lookup (Service.nameOf "tsdb-uid") = some crossedTable ∧
      crossedTable.Distinct ∧ (Address.onGateway []).Serves "tsdb-uid" "tsdb-uid" 4 ∧
      (Inquiry.id .metric "cpu").isLookup = true ∧
      ∃ rs s r s', (replies ⟨"tsdb-uid", 1⟩ [.metricName [1]]).run
          (.start (.serving [("tsdb-uid", crossedTable)] [] 0) (Address.onGateway [])) = (rs, s) ∧
        ((Inquiry.id .metric "cpu").make (RemoteDirectory.directory ⟨"tsdb-uid", 1⟩)).run.run s =
          (r, s') ∧
        Resolves crossedTable (.id .metric "cpu") r ∧ ∀ f, r = .error f → f.kind = .resolution := by
  have htable : [("tsdb-uid", crossedTable)].lookup (Service.nameOf "tsdb-uid") =
      some crossedTable := by
    have hname : Service.nameOf "tsdb-uid" = "tsdb-uid" := by decide +kernel
    rw [hname, List.lookup_cons_self]
  have hdistinct : crossedTable.Distinct := by decide
  have hplain : Address.IsPlain "tsdb-uid".toList :=
    Address.isPlain_segment (List.all_eq_true.mp (by decide)) (by decide) (by decide)
  have hserves : (Address.onGateway []).Serves "tsdb-uid" "tsdb-uid" 4 :=
    Address.serves_gw (k := 1) hplain (by decide) (by decide) (by decide) (by decide)
  obtain ⟨rs, s, r, s', hpast, hrun, hresolves, hfails⟩ :=
    make_resolves (d := ⟨"tsdb-uid", 1⟩) htable hdistinct [.metricName [1]] hserves
      (.id .metric "cpu") rfl
  refine ⟨htable, hdistinct, hserves, rfl, rs, s, r, s', hpast, hrun, hresolves, fun f hf => ?_⟩
  by_cases hkind : f.kind = .resolution
  · exact hkind
  · obtain ⟨_, _, hq, hbeyond⟩ := hfails.mp ⟨f, hf, hkind⟩
    cases hq
    have hkey : Bytes.ofLatin? "cpu" ≠ none := by decide
    exact absurd (Bytes.ofLatin?_eq_none_iff.mpr hbeyond) hkey

/-- A metric whose name is a euro sign is not reported as unknown. -/
theorem make_unwritable :
    ∃ f s, ((Inquiry.id .metric "€").make (RemoteDirectory.directory ⟨"tsdb-uid", 128⟩)).run.run
        (.start (.serving [("tsdb-uid", [])] [] 0) (Address.onGateway [])) = (.error f, s) ∧
      f.kind ≠ .resolution := by
  let s : Session := .start (.serving [("tsdb-uid", [])] [] 0) (Address.onGateway [])
  have hkey : Bytes.ofLatin? "€" = none := by decide
  have hrun : ((RemoteDirectory.directory ⟨"tsdb-uid", 128⟩).id .metric "€").run.run s =
      (.error (.unwritableName "€"), s) :=
    (id_of_unseen rfl).trans (Task.bind_of_error (keyOf_of_none hkey s) _)
  exact ⟨_, s, reply_run hrun _, by decide⟩

end Inquiry

end RemoteDirectory

end RawSeries
