import RawSeries.Proofs.RemoteLookups

namespace RawSeries

open Gateway

namespace Gateway.CellTable

open RemoteDirectory (column idFamily)

/-- The keys of the rows that give metrics to suggest: those with the unique ID of a metric, which
start with some bytes or, when nothing is looked for, lie from `!` up to `~`. -/
def Suggests (t : CellTable) (first key : Bytes) : Prop :=
  (∃ uid, t.value? key (column idFamily .metric) = some uid) ∧
    if first = [] then [33] ≤ key ∧ key < [126] else first <+: key

theorem suits_iff (first key : Bytes) :
    suits first key = true ↔ if first = [] then [33] ≤ key ∧ key < [126] else first <+: key := by
  unfold suits
  cases first with
  | nil =>
      rw [List.isEmpty_nil, if_pos rfl, if_pos rfl, inRange, Bool.and_eq_true, Bool.not_eq_true',
        Bytes.not_before_iff, List.isEmpty_cons, Bool.false_or, Bytes.before_iff]
  | cons x first =>
      rw [List.isEmpty_cons, if_neg (by decide), if_neg (by simp), List.isPrefixOf_iff_prefix]

/-- The keys of the names of a kind, in order. -/
def keysOf (t : CellTable) (kind : UidKind) (first : Bytes) : List Bytes :=
  ((inOrder (t.filter fun row => suits first row.1)).filter fun row =>
    (row.2.lookup (column idFamily kind)).isSome).map Prod.fst

variable {t : CellTable}

theorem namesOf_eq_map (t : CellTable) (kind : UidKind) (first : Bytes) :
    t.namesOf kind first = (t.keysOf kind first).map Bytes.toLatin := by
  rw [namesOf, keysOf, List.map_map]
  rfl

theorem keysOf_pairwise (h : t.Distinct) (kind : UidKind) (first : Bytes) :
    (t.keysOf kind first).Pairwise (· < ·) := by
  have hkeys : ((t.filter fun row => suits first row.1).map Prod.fst).Nodup :=
    h.keys.sublist (List.filter_sublist.map Prod.fst)
  apply List.pairwise_map.mpr
  exact ((inOrder_keys_pairwise hkeys).filter _).imp (Bytes.before_iff _ _).mp

theorem mem_keysOf_iff (h : t.Distinct) (first key : Bytes) :
    key ∈ t.keysOf .metric first ↔ t.Suggests first key := by
  unfold Suggests
  rw [keysOf, List.mem_map, ← suits_iff]
  constructor
  · rintro ⟨row, hrow, rfl⟩
    obtain ⟨hmem, hcell⟩ := List.mem_filter.mp hrow
    obtain ⟨hstored, hsuits⟩ := List.mem_filter.mp ((inOrder_perm _).mem_iff.mp hmem)
    obtain ⟨uid, huid⟩ := Option.isSome_iff_exists.mp hcell
    refine ⟨⟨uid, ?_⟩, hsuits⟩
    rw [value?, lookup_of_mem h.keys hstored]
    exact huid
  · rintro ⟨⟨uid, huid⟩, hsuits⟩
    obtain ⟨cells, hcells, hcell⟩ := Option.bind_eq_some_iff.mp huid
    have hstored : (key, cells) ∈ t := RemoteDirectory.mem_of_lookup hcells
    refine ⟨(key, cells), List.mem_filter.mpr ⟨?_, ?_⟩, rfl⟩
    · exact (inOrder_perm _).mem_iff.mpr (List.mem_filter.mpr ⟨hstored, hsuits⟩)
    · rw [hcell, Option.isSome_some]

def wanted (limit : Option Nat) (keys : List Bytes) : List Bytes :=
  match limit with
  | none => keys
  | some count => keys.take count

theorem upTo_map (limit : Option Nat) (keys : List Bytes) :
    upTo limit (keys.map Bytes.toLatin) = (wanted limit keys).map Bytes.toLatin := by
  cases limit with
  | none => rfl
  | some count => exact List.map_take.symm

end Gateway.CellTable

namespace RemoteDirectory

open CellTable (inOrder keysOf upTo wanted)

variable {s : Session} {d : RemoteDirectory} {t : CellTable} {tables : List (String × CellTable)}
  {segment : String} {last n : Nat}

/-- Whatever was looked up before, the metrics that are suggested for a text are those of the table
that start with it, without gaps and in byte order, as many as are wanted. After that the unique ID
of each of them is the one that stands in its row, and nothing is asked for it. -/
theorem suggests_in_order (htable : tables.lookup (Service.nameOf segment) = some t)
    (hdistinct : t.Distinct) (hready : s.Ready tables d.table segment last n) (hn : n + 1 ≤ last)
    {start : String} {first : Bytes} (hfirst : Bytes.ofLatin? start = some first)
    (limit : Option Nat) :
    (t.keysOf .metric first).Pairwise (· < ·) ∧
      (∀ key, key ∈ t.keysOf .metric first ↔ t.Suggests first key) ∧
      ∃ s', (d.directory.suggest start limit).run.run s =
          (.ok ((wanted limit (t.keysOf .metric first)).map Bytes.toLatin), s') ∧
        ∀ key ∈ wanted limit (t.keysOf .metric first), ∃ uid,
          t.value? key (column idFamily .metric) = some uid ∧
          (d.directory.id .metric (Bytes.toLatin key)).run.run s' = (.ok uid, s') := by
  refine ⟨CellTable.keysOf_pairwise hdistinct .metric first,
    CellTable.mem_keysOf_iff hdistinct first, ?_⟩
  have hnames : upTo limit (t.namesOf .metric first) =
      (wanted limit (t.keysOf .metric first)).map Bytes.toLatin := by
    rw [CellTable.namesOf_eq_map, CellTable.upTo_map]
  obtain ⟨s', hrun, -, -, -, hnotes⟩ :=
    suggest_noted htable hdistinct hready hn hfirst limit
  rw [hnames] at hrun hnotes
  refine ⟨s', hrun, ?_⟩
  intro key hkey
  obtain ⟨uid, hseen, hid⟩ := hnotes.lookup_eq (List.mem_map_of_mem hkey)
  obtain ⟨own, hown, hvalue⟩ := (CellTable.id_eq_ok_iff t .metric _ uid).mp hid
  have hsame : own = key := by
    have hlatin := Bytes.ofLatin?_eq_some_iff.mpr hown
    rw [Bytes.ofLatin?_eq_some_iff.mpr rfl] at hlatin
    exact (Option.some.inj hlatin).symm
  exact ⟨uid, hsame ▸ hvalue, id_of_seen hseen⟩

/-- Metrics whose names end in the last byte, between rows without the unique ID of a metric. -/
def lastByteTable : CellTable :=
  [([0, 0, 1], [(column nameFamily .metric, [97, 255])]),
    ([97, 254], [(column idFamily .metric, [0, 0, 4])]),
    ([97, 255], [(column idFamily .metric, [0, 0, 1])]),
    ([97, 255, 1], [(column idFamily .tagKey, [0, 0, 1])]),
    ([97, 255, 255], [(column idFamily .metric, [0, 0, 2]), (column idFamily .tagKey, [0, 0, 2])]),
    ([97, 255, 255, 0], [(column idFamily .metric, [0, 0, 5])]),
    ([98], [(column idFamily .metric, [0, 0, 3])])]

theorem suggests_in_order_sample :
    [("tsdb-uid", lastByteTable)].lookup (Service.nameOf "tsdb-uid") = some lastByteTable ∧
      lastByteTable.Distinct ∧
      (Session.start (.serving [("tsdb-uid", lastByteTable)] [] 0) (Address.onGateway [])).Ready
        [("tsdb-uid", lastByteTable)] "tsdb-uid" "tsdb-uid" 1 0 ∧
      Bytes.ofLatin? "aÿ" = some [97, 255] ∧
      ∃ s', ((RemoteDirectory.directory ⟨"tsdb-uid", 1⟩).suggest "aÿ" (some 2)).run.run
          (.start (.serving [("tsdb-uid", lastByteTable)] [] 0) (Address.onGateway [])) =
            (.ok ["aÿ", "aÿÿ"], s') ∧
        ∃ uid, lastByteTable.value? [97, 255, 255] (column idFamily .metric) = some uid ∧
          ((RemoteDirectory.directory ⟨"tsdb-uid", 1⟩).id .metric "aÿÿ").run.run s' =
            (.ok uid, s') := by
  have htable : [("tsdb-uid", lastByteTable)].lookup (Service.nameOf "tsdb-uid") =
      some lastByteTable := by
    have hname : Service.nameOf "tsdb-uid" = "tsdb-uid" := by decide +kernel
    rw [hname, List.lookup_cons_self]
  have hdistinct : lastByteTable.Distinct := by decide
  have hplain : Address.IsPlain "tsdb-uid".toList :=
    Address.isPlain_segment (List.all_eq_true.mp (by decide)) (by decide) (by decide)
  have hserves : (Address.onGateway []).Serves "tsdb-uid" "tsdb-uid" 1 :=
    Address.serves_gw (k := 1) hplain (by decide) (by decide) (by decide) (by decide)
  have hready : (Session.start (.serving [("tsdb-uid", lastByteTable)] [] 0)
      (Address.onGateway [])).Ready [("tsdb-uid", lastByteTable)] "tsdb-uid" "tsdb-uid" 1 0 :=
    ⟨rfl, hserves, rfl⟩
  have hfirst : Bytes.ofLatin? "aÿ" = some [97, 255] := by decide +kernel
  have hsorted : inOrder (lastByteTable.filter fun row => CellTable.suits [97, 255] row.1) =
      lastByteTable.filter fun row => CellTable.suits [97, 255] row.1 :=
    List.mergeSort_of_pairwise (by decide)
  have hkeys : wanted (some 2) (lastByteTable.keysOf .metric [97, 255]) =
      [[97, 255], [97, 255, 255]] := by
    rw [keysOf, hsorted]
    decide
  obtain ⟨-, -, s', hrun, hknown⟩ := suggests_in_order (d := ⟨"tsdb-uid", 1⟩) htable hdistinct
    hready (Nat.le_refl 1) hfirst (some 2)
  rw [hkeys] at hrun hknown
  exact ⟨htable, hdistinct, hready, hfirst, s', hrun, hknown [97, 255, 255] (by simp)⟩

end RemoteDirectory

end RawSeries
