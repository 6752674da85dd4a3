import RawSeries.Directory.Remote
import RawSeries.Proofs.GatewayScan
import RawSeries.Proofs.Utf8Sequences

namespace RawSeries

namespace Bytes

theorem latinChar_eq_iff {c : Char} {x : UInt8} :
    (if c.toNat < 256 then some (UInt8.ofNat c.toNat) else none) = some x ↔
      c = Char.ofNat x.toNat := by
  have hbyte := x.toNat_lt
  have hchar : (Char.ofNat x.toNat).toNat = x.toNat := Utf8.toNat_ofNat_of_valid (.inl (by omega))
  constructor
  · intro h
    split at h
    · rename_i hsmall
      obtain rfl := Option.some.inj h
      rw [UInt8.toNat_ofNat_of_lt' hsmall, Char.ofNat_toNat]
    · cases h
  · rintro rfl
    rw [hchar, if_pos hbyte, UInt8.ofNat_toNat]

theorem ofLatin?_eq_some_iff {s : String} {b : Bytes} : ofLatin? s = some b ↔ s = toLatin b := by
  rw [ofLatin?, toLatin, ← String.toList_inj, String.toList_ofList]
  generalize s.toList = cs
  induction cs generalizing b with
  | nil => cases b <;> simp
  | cons c cs ih =>
      simp only [List.mapM_cons, Option.bind_eq_bind, Option.bind_eq_some_iff, latinChar_eq_iff, ih]
      cases b <;> simp

end Bytes

namespace Gateway.CellTable

variable {α : Type}

theorem filter_key_eq {pairs : List (Bytes × α)} (h : (pairs.map Prod.fst).Nodup) (key : Bytes) :
    pairs.filter (fun p => p.1 == key) = ((pairs.lookup key).map fun a => (key, a)).toList := by
  induction pairs with
  | nil => rfl
  | cons p pairs ih =>
      obtain ⟨own, a⟩ := p
      obtain ⟨hown, hpairs⟩ := List.nodup_cons.mp h
      by_cases hkey : own = key
      · subst hkey
        have hnone : pairs.filter (fun p => p.1 == own) = [] := by
          apply List.filter_eq_nil_iff.mpr
          intro p hp heq
          exact hown (List.mem_map.mpr ⟨p, hp, eq_of_beq heq⟩)
        simp [hnone]
      · have hother : (key == own) = false := by simpa using Ne.symm hkey
        rw [List.filter_cons_of_neg (by simpa using hkey), ih hpairs, List.lookup_cons, hother]

theorem lookup_of_mem {pairs : List (Bytes × α)} (h : (pairs.map Prod.fst).Nodup)
    {p : Bytes × α} (hp : p ∈ pairs) : pairs.lookup p.1 = some p.2 := by
  have hmem : p ∈ pairs.filter fun q => q.1 == p.1 := List.mem_filter.mpr ⟨hp, beq_self_eq_true p.1⟩
  rw [filter_key_eq h, Option.mem_toList] at hmem
  obtain ⟨a, hlookup, hsame⟩ := Option.map_eq_some_iff.mp hmem
  rw [hlookup, ← hsame]

theorem eq_of_perm_toList {as : List α} {o : Option α} (h : as.Perm o.toList) : as = o.toList := by
  cases o with
  | none => exact h.eq_nil
  | some a => exact List.perm_singleton.mp h

theorem inOrder_filter_key {pairs : List (Bytes × α)} (h : (pairs.map Prod.fst).Nodup)
    (key : Bytes) :
    (inOrder pairs).filter (fun p => p.1 == key) =
      ((pairs.lookup key).map fun a => (key, a)).toList := by
  apply eq_of_perm_toList
  rw [← filter_key_eq h]
  exact (inOrder_perm pairs).filter _

def value? (t : CellTable) (key column : Bytes) : Option Bytes :=
  (t.lookup key).bind fun cells => cells.lookup column

/-- Keys are distinct, and so are the columns of every row. -/
structure Distinct (t : CellTable) : Prop where
  keys : (t.map Prod.fst).Nodup
  columns : ∀ row ∈ t, (row.2.map Prod.fst).Nodup

instance (t : CellTable) : Decidable t.Distinct :=
  decidable_of_iff ((t.map Prod.fst).Nodup ∧ ∀ row ∈ t, (row.2.map Prod.fst).Nodup)
    ⟨fun h => ⟨h.1, h.2⟩, fun h => ⟨h.keys, h.columns⟩⟩

/-- The rows of a range that have a cell in a column, in key order, with that cell alone. -/
def cellsIn (t : CellTable) (start stop column qualifier : Bytes) : List Row :=
  (inOrder (t.filter fun row => inRange start stop row.1)).filterMap fun row =>
    (row.2.lookup column).map fun value => ⟨row.1, [⟨qualifier, value⟩]⟩

theorem inRange_single (key other : Bytes) :
    inRange key (RemoteDirectory.after key) other = (other == key) := by
  have hstop : (RemoteDirectory.after key).isEmpty = false := by simp [RemoteDirectory.after]
  rw [Bool.eq_iff_iff, inRange, hstop, Bool.false_or, Bool.and_eq_true, Bool.not_eq_true',
    Bytes.not_before_iff, Bytes.before_iff, RemoteDirectory.after, Bytes.lt_append_zero_iff,
    beq_iff_eq]
  constructor
  · rintro ⟨hle, hlt | heq⟩
    · exact absurd hlt (List.not_lt.mpr hle)
    · exact heq
  · rintro rfl
    exact ⟨List.le_refl _, .inr rfl⟩

variable {t : CellTable}

theorem cellsIn_single (h : t.Distinct) (key column qualifier : Bytes) :
    t.cellsIn key (RemoteDirectory.after key) column qualifier =
      ((t.value? key column).map fun value => ⟨key, [⟨qualifier, value⟩]⟩).toList := by
  have hrows : inOrder (t.filter fun row => inRange key (RemoteDirectory.after key) row.1) =
      ((t.lookup key).map fun cells => (key, cells)).toList := by
    apply eq_of_perm_toList
    rw [← filter_key_eq h.keys]
    simp only [inRange_single]
    exact inOrder_perm _
  rw [cellsIn, hrows, value?]
  cases t.lookup key with
  | none => rfl
  | some cells => cases hvalue : cells.lookup column <;> simp [hvalue]

theorem not_mem_cut (x : UInt8) (b : Bytes) : x ∉ (Bytes.cut x b).1 := by
  induction b with
  | nil => simp [Bytes.cut]
  | cons y b ih =>
      unfold Bytes.cut
      split
      · simp
      · rename_i hy
        simpa [Ne.symm hy] using ih

theorem wants_column {column : Bytes} (h : CellSet.colon ∈ column) (other : Bytes) :
    wants [column] other = (other == column) := by
  have hfamily : (Bytes.cut CellSet.colon other).1 ≠ column := by
    intro heq
    exact not_mem_cut CellSet.colon other (heq ▸ h)
  simp only [wants, List.contains_cons, List.contains_nil, Bool.or_false, beq_eq_false_iff_ne.mpr hfamily]

theorem toCome_column (h : t.Distinct) {family : Bytes} (hfamily : CellSet.colon ∉ family)
    (qualifier start stop : Bytes) (batch : Nat) (location : String) :
    (Cursor.ofLocation location (Session.familyOf [family ++ CellSet.colon :: qualifier])
      fun _ => true).toCome
        (t.cells ⟨start, stop, batch, [family ++ CellSet.colon :: qualifier]⟩) =
      t.cellsIn start stop (family ++ CellSet.colon :: qualifier) qualifier := by
  have hcut := CellSet.cut_column hfamily qualifier
  have hown : Session.familyOf [family ++ CellSet.colon :: qualifier] = some family := by
    simp [Session.familyOf, hcut]
  have hcolon : CellSet.colon ∈ family ++ CellSet.colon :: qualifier := by simp
  have hrows : ∀ row ∈ inOrder (t.filter fun row => inRange start stop row.1),
      (row.2.map Prod.fst).Nodup := by
    intro row hrow
    exact h.columns row (List.mem_filter.mp ((inOrder_perm _).mem_iff.mp hrow)).1
  rw [hown, toCome_cells h.keys, cellsIn, List.filter_eq_self.mpr fun _ _ => rfl]
  dsimp only
  generalize inOrder (t.filter fun row => inRange start stop row.1) = rows at hrows ⊢
  induction rows with
  | nil => rfl
  | cons row rows ih =>
      obtain ⟨hrow, hmore⟩ := List.forall_mem_cons.mp hrows
      have hcells := inOrder_filter_key hrow (family ++ CellSet.colon :: qualifier)
      simp only [List.map_cons, wants_column hcolon, hcells, List.filterMap_cons]
      simp only [wants_column hcolon] at ih
      cases row.2.lookup (family ++ CellSet.colon :: qualifier) with
      | none => simpa using ih hmore
      | some value => simpa [CellSet.rowOf, CellSet.columnOf?, hcut] using ih hmore

open RemoteDirectory (column nameFamily idFamily)

/-- Keys from `!` to `~` when nothing is looked for, else the keys that start with some bytes. -/
def suits (start key : Bytes) : Bool :=
  if start.isEmpty then inRange [33] [126] key else start.isPrefixOf key

def upTo (limit : Option Nat) (names : List String) : List String :=
  match limit with
  | none => names
  | some n => names.take n

/-- The names of a kind whose keys suit some bytes, in key order. -/
def namesOf (t : CellTable) (kind : UidKind) (start : Bytes) : List String :=
  ((inOrder (t.filter fun row => suits start row.1)).filter fun row =>
    (row.2.lookup (column idFamily kind)).isSome).map fun row => Bytes.toLatin row.1

/-- The names and unique IDs that stand in a table. -/
def directory (t : CellTable) : Directory (Except Fault) where
  name kind uid :=
    match t.value? uid (column nameFamily kind) with
    | some name => .ok (Bytes.toLatin name)
    | none => .error (.unknownUid kind uid)
  id kind name :=
    match Bytes.ofLatin? name with
    | none => .error (.unwritableName name)
    | some key =>
        match t.value? key (column idFamily kind) with
        | some uid => .ok uid
        | none => .error (.unknownName kind name)
  suggest start limit :=
    match Bytes.ofLatin? start with
    | none => .error (.unwritableName start)
    | some first => .ok (upTo limit (t.namesOf .metric first))

/-- The names and the unique IDs of every kind are inverse to each other. -/
def Paired (t : CellTable) : Prop :=
  ∀ kind uid name, t.value? uid (column nameFamily kind) = some name ↔
    t.value? name (column idFamily kind) = some uid

theorem mem_of_value? {key column value : Bytes} (h : t.value? key column = some value) :
    ∃ row ∈ t, row.1 = key := by
  obtain ⟨cells, hcells, -⟩ := Option.bind_eq_some_iff.mp h
  obtain ⟨before, later, rfl, -⟩ := List.lookup_eq_some_iff.mp hcells
  exact ⟨(key, cells), by simp, rfl⟩

/-- It is enough to look at the rows that a table has. -/
theorem paired_iff (t : CellTable) :
    t.Paired ↔ ∀ kind ∈ [UidKind.metric, .tagKey, .tagValue], ∀ row ∈ t,
      (∀ name ∈ t.value? row.1 (column nameFamily kind),
        t.value? name (column idFamily kind) = some row.1) ∧
      ∀ uid ∈ t.value? row.1 (column idFamily kind),
        t.value? uid (column nameFamily kind) = some row.1 := by
  constructor
  · intro h kind _ row _
    exact ⟨fun name => (h kind row.1 name).mp, fun uid => (h kind uid row.1).mpr⟩
  · intro h kind uid name
    have hkind : kind ∈ [UidKind.metric, .tagKey, .tagValue] := by cases kind <;> decide
    constructor
    · intro hname
      obtain ⟨row, hrow, rfl⟩ := mem_of_value? hname
      exact (h kind hkind row hrow).1 name hname
    · intro huid
      obtain ⟨row, hrow, rfl⟩ := mem_of_value? huid
      exact (h kind hkind row hrow).2 uid huid

instance (t : CellTable) : Decidable t.Paired :=
  decidable_of_iff _ (paired_iff t).symm

theorem suits_eq_inRange (start key : Bytes) :
    suits start key =
      inRange (RemoteDirectory.range start).1 (RemoteDirectory.range start).2 key := by
  unfold suits RemoteDirectory.range
  split
  · rfl
  · rw [Bool.eq_iff_iff, Bytes.isPrefixOf_iff, inRange, Bool.and_eq_true, Bool.or_eq_true,
      Bool.not_eq_true', Bytes.not_before_iff, Bytes.before_iff, List.isEmpty_iff]

theorem map_key_cellsIn (t : CellTable) (kind : UidKind) (start qualifier : Bytes) :
    ((t.cellsIn (RemoteDirectory.range start).1 (RemoteDirectory.range start).2
      (column idFamily kind) qualifier).map fun row => Bytes.toLatin row.key) =
        t.namesOf kind start := by
  simp only [cellsIn, namesOf, ← suits_eq_inRange]
  induction inOrder (t.filter fun row => suits start row.1) with
  | nil => rfl
  | cons row rows ih =>
      cases hcell : row.2.lookup (column idFamily kind) <;> simp [hcell, ih]

theorem eq_of_mem_cellsIn (h : t.Distinct) {start stop column qualifier : Bytes} {row : Row}
    (hrow : row ∈ t.cellsIn start stop column qualifier) :
    ∃ value, t.value? row.key column = some value ∧ row = ⟨row.key, [⟨qualifier, value⟩]⟩ := by
  obtain ⟨stored, hstored, hcell⟩ := List.mem_filterMap.mp hrow
  obtain ⟨value, hvalue, rfl⟩ := Option.map_eq_some_iff.mp hcell
  have hmem := (List.mem_filter.mp ((inOrder_perm _).mem_iff.mp hstored)).1
  have hlookup : t.lookup stored.1 = some stored.2 := lookup_of_mem h.keys hmem
  exact ⟨value, by rw [value?, hlookup]; exact hvalue, rfl⟩

theorem name_eq_ok_iff (t : CellTable) (kind : UidKind) (uid : Bytes) (name : String) :
    t.directory.name kind uid = .ok name ↔
      ∃ value, t.value? uid (column nameFamily kind) = some value ∧ name = Bytes.toLatin value := by
  simp only [directory]
  cases t.value? uid (column nameFamily kind) with
  | none => simp
  | some value => simp [eq_comm]

theorem id_eq_ok_iff (t : CellTable) (kind : UidKind) (name : String) (uid : Bytes) :
    t.directory.id kind name = .ok uid ↔
      ∃ key, name = Bytes.toLatin key ∧ t.value? key (column idFamily kind) = some uid := by
  simp only [directory, ← Bytes.ofLatin?_eq_some_iff]
  cases Bytes.ofLatin? name with
  | none => simp
  | some key => cases hvalue : t.value? key (column idFamily kind) <;> simp [hvalue]

end Gateway.CellTable

end RawSeries
