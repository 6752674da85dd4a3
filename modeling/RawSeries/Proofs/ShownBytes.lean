import RawSeries.Proofs.ByteListings
import RawSeries.Proofs.ColumnShapes
import RawSeries.Proofs.TaskRuns

namespace RawSeries

namespace Fault

variable {key key' : Bytes} {c c' : Column} {s t : List Char}

theorem toList_wherePlace (key : Bytes) :
    (wherePlace key).toList = "row key ".toList ++ (Bytes.signedListing key).toList := by
  rw [wherePlace, String.toList_append]

theorem toList_whereColumn (key : Bytes) (c : Column) :
    (whereColumn key c).toList = "row key ".toList ++ ((Bytes.signedListing key).toList ++
      (", column ".toList ++ ((Bytes.signedListing c.qualifier).toList ++
        ("=".toList ++ (Bytes.signedListing c.value).toList)))) := by
  simp only [whereColumn, wherePlace, String.toList_append, List.append_assoc]

theorem wherePlace_injective : Function.Injective wherePlace := by
  intro key key' h
  have hchars := congrArg String.toList h
  rw [toList_wherePlace, toList_wherePlace, List.append_cancel_left_eq] at hchars
  exact Bytes.signedListing_injective (String.toList_inj.mp hchars)

/-- The text of a place of a column is read off a text that begins with it. -/
theorem whereColumn_append_inj :
    (whereColumn key c).toList ++ s = (whereColumn key' c').toList ++ t ↔
      key = key' ∧ c = c' ∧ s = t := by
  obtain ⟨q, v⟩ := c
  obtain ⟨q', v'⟩ := c'
  simp only [toList_whereColumn, List.append_assoc, List.append_cancel_left_eq,
    Bytes.signedListing_append_inj, Column.mk.injEq, and_assoc]

theorem wherePlace_ne_whereColumn (key key' : Bytes) (c : Column) :
    wherePlace key ≠ whereColumn key' c := by
  intro h
  have hchars := congrArg (·.toList ++ []) h
  simp only [toList_wherePlace, toList_whereColumn, List.append_assoc,
    List.append_cancel_left_eq, Bytes.signedListing_append_inj] at hchars
  simp at hchars

/-- What stands before the place in the message of a fault of a column. -/
def opening : Fault → String
  | .compaction _ => "Malformed compacted column in "
  | _ => "Unable to parse row: "

theorem message_inColumn (key : Bytes) (c : Column) (cause : Fault) :
    (inColumn key c cause).message =
      opening cause ++ whereColumn key c ++ ": " ++ cause.message := by
  cases cause <;> rfl

theorem opening_append_inj {cause cause' : Fault}
    (h : (opening cause).toList ++ s = (opening cause').toList ++ t) : s = t := by
  unfold opening at h
  split at h <;> split at h
  · exact List.append_cancel_left h
  · simp at h
  · simp at h
  · exact List.append_cancel_left h

theorem message_inColumn_inj {cause cause' : Fault}
    (h : (inColumn key c cause).message = (inColumn key' c' cause').message) :
    key = key' ∧ c = c' := by
  have hchars := congrArg String.toList h
  simp only [message_inColumn, String.toList_append, List.append_assoc] at hchars
  obtain ⟨hkey, hc, -⟩ := whereColumn_append_inj.mp (opening_append_inj hchars)
  exact ⟨hkey, hc⟩

theorem message_inKey (key : Bytes) (cause : Fault) :
    (inKey key cause).message = cause.message ++ " (" ++ wherePlace key ++ ")" :=
  rfl

/-- The cause comes first here and may be any text, so the key is read off the end. -/
theorem message_inKey_inj {cause cause' : Fault}
    (h : (inKey key cause).message = (inKey key' cause').message) : key = key' := by
  have hchars := congrArg String.toList h
  simp only [message_inKey, String.toList_append, toList_wherePlace] at hchars
  have hfront := List.append_cancel_right hchars
  rw [← List.append_assoc, ← List.append_assoc] at hfront
  exact (Bytes.append_signedListing_inj.mp hfront).2

/-- A text has this first letter. -/
def Begins (x : Char) (text : String) : Prop :=
  text.toList.head? = some x

instance (x : Char) (text : String) : Decidable (Begins x text) :=
  inferInstanceAs (Decidable (_ = _))

theorem Begins.append {x : Char} {a : String} (h : Begins x a) (b : String) :
    Begins x (a ++ b) := by
  rw [Begins] at h ⊢
  rw [String.toList_append, List.head?_append, h, Option.some_or]

theorem begins_message_inColumn (key : Bytes) (c : Column) (cause : Fault) :
    Begins 'U' (inColumn key c cause).message ∨ Begins 'M' (inColumn key c cause).message := by
  have hopening : Begins 'U' (opening cause) ∨ Begins 'M' (opening cause) := by
    unfold opening
    split
    · exact .inr (by decide)
    · exact .inl (by decide)
  rw [message_inColumn]
  exact hopening.imp (fun h => ((h.append _).append _).append _)
    fun h => ((h.append _).append _).append _

theorem begins_message_key (flaw : Key.Flaw) :
    Begins 'R' flaw.message ∨ Begins 'i' flaw.message := by
  rw [Key.Flaw.message.eq_def]
  cases flaw with
  | tooShort bytes =>
      have hstart : Begins 'R' "Row key too short (" := by decide
      exact .inl (((hstart.append _).append _).append _)
  | unevenTags tail width bytes =>
      have hstart : Begins 'R' "Row key tag section is " := by decide
      exact .inl (((((hstart.append _).append _).append _).append _).append _)
  | noTagWidth => exact .inr (by decide)

theorem message_unknownUid (kind : UidKind) (uid : Bytes) :
    (unknownUid kind uid).message =
      "No such unique ID for '" ++ kind.word ++ "': " ++ Bytes.listing uid :=
  rfl

theorem begins_message_unknownUid (kind : UidKind) (uid : Bytes) :
    Begins 'N' (unknownUid kind uid).message := by
  have hstart : Begins 'N' "No such unique ID for '" := by decide
  rw [message_unknownUid]
  exact ((hstart.append _).append _).append _

theorem message_inKey_ne_inColumn {cause : Fault}
    (h : (∃ flaw, cause = .key flaw) ∨ ∃ kind uid, cause = .unknownUid kind uid)
    (key key' : Bytes) (c : Column) (cause' : Fault) :
    (inKey key cause).message ≠ (inColumn key' c cause').message := by
  intro hsame
  obtain ⟨x, hx, hstart⟩ : ∃ x ∈ ['R', 'i', 'N'], Begins x cause.message := by
    rcases h with ⟨flaw, rfl⟩ | ⟨kind, uid, rfl⟩
    · rcases begins_message_key flaw with hstart | hstart
      · exact ⟨'R', by decide, hstart⟩
      · exact ⟨'i', by decide, hstart⟩
    · exact ⟨'N', by decide, begins_message_unknownUid kind uid⟩
  have hkey : Begins x (inKey key cause).message := by
    rw [message_inKey]
    exact ((hstart.append _).append _).append _
  have hdiffer : ∀ x ∈ ['R', 'i', 'N'], x ≠ 'U' ∧ x ≠ 'M' := by simp
  rw [Begins, hsame] at hkey
  rcases begins_message_inColumn key' c cause' with hcolumn | hcolumn
  · exact (hdiffer x hx).1 (Option.some.inj (hkey.symm.trans hcolumn))
  · exact (hdiffer x hx).2 (Option.some.inj (hkey.symm.trans hcolumn))

end Fault

namespace Cell

theorem exists_rawLine_eq {cell : Cell} {base : Int} {line : String}
    (h : cell.rawLine base = .ok line) :
    ∃ rest, line.toList = (Bytes.signedListing cell.qualifier).toList ++ ('\t' ::
      ((Bytes.signedListing cell.value).toList ++ rest)) := by
  simp only [rawLine, bind_eq_ok_iff] at h
  obtain ⟨timestamp, -, offset, -, whole, -, date, -, h⟩ := h
  cases h
  simp only [String.toList_append, List.append_assoc]
  exact ⟨_, rfl⟩

theorem rawLine_inj {cell cell' : Cell} {base base' : Int} {line : String}
    (h : cell.rawLine base = .ok line) (h' : cell'.rawLine base' = .ok line) : cell = cell' := by
  obtain ⟨rest, hline⟩ := exists_rawLine_eq h
  obtain ⟨rest', hline'⟩ := exists_rawLine_eq h'
  rw [hline, Bytes.signedListing_append_inj, List.cons.injEq, Bytes.signedListing_append_inj]
    at hline'
  obtain ⟨hqualifier, -, hvalue, -⟩ := hline'
  cases cell
  cases cell'
  rw [Cell.mk.injEq]
  exact ⟨hqualifier, hvalue⟩

end Cell

namespace Column

/-- A four-byte float as old writers stored it, with four zeros in front. -/
def Padded (q stored told : Bytes) : Prop :=
  Qualifier.flags q = 11 ∧ told.length = 4 ∧ stored = [0, 0, 0, 0] ++ told

/-- The bytes that a column stores for a point which it is told to hold: its whole qualifier and
value, or the parts of both between those of the points before it and after it. -/
inductive Stores (c : Column) : Cell → Bytes → Bytes → Prop where
  | alone {cell : Cell} (h : c.decode? = some (.point cell)) :
      c.Stores cell c.qualifier c.value
  | among {cell : Cell} {before after : List Cell} {trailer q v : Bytes}
      (h : c.decode? = some (.compacted ⟨before ++ cell :: after, trailer⟩))
      (hq : c.qualifier = before.flatMap Cell.qualifier ++ q ++ after.flatMap Cell.qualifier)
      (hv : c.value =
        before.flatMap Cell.value ++ v ++ (after.flatMap Cell.value ++ trailer)) :
      c.Stores cell q v

variable {c c' : Column} {cell : Cell} {q q' v v' : Bytes}

theorem Stores.eq_or_padded (h : c.Stores cell q v) :
    q = cell.qualifier ∧ (v = cell.value ∨ Padded q v cell.value) := by
  cases h with
  | alone hdecode =>
      cases reads_of_decode? hdecode with
      | @point q flags value hq hfits =>
          refine ⟨rfl, ?_⟩
          by_cases hlegacy : flags = 11 ∧ value.length = 8 ∧ value.take 4 = [0, 0, 0, 0]
          · right
            have hshort : Point.shortened flags value = value.drop 4 := if_pos hlegacy
            obtain ⟨hflags, hlength, hzeros⟩ := hlegacy
            refine ⟨by rw [Qualifier.flags, hq.flags?_eq, hflags]; rfl, ?_, ?_⟩
            · rw [hshort, List.length_drop, hlength]
            · rw [hshort, ← hzeros, List.take_append_drop]
          · left
            exact (if_neg hlegacy).symm
  | among hdecode hq hv =>
      cases reads_of_decode? hdecode with
      | compacted p hvalid hjoined =>
          simp only [Compacted.join, List.flatMap_append, List.flatMap_cons, List.append_assoc,
            List.append_cancel_left_eq] at hq hv
          exact ⟨(List.append_cancel_right hq).symm, .inl (List.append_cancel_right hv).symm⟩

theorem Stores.eq_or_padded_of_cell (h : c.Stores cell q v) (h' : c'.Stores cell q' v') :
    q = q' ∧ (v = v' ∨ Padded q v v' ∨ Padded q v' v) := by
  obtain ⟨rfl, hv⟩ := h.eq_or_padded
  obtain ⟨rfl, hv'⟩ := h'.eq_or_padded
  refine ⟨rfl, ?_⟩
  rcases hv with rfl | hv
  · rcases hv' with rfl | hv'
    · exact .inl rfl
    · exact .inr (.inr hv')
  · rcases hv' with rfl | hv'
    · exact .inr (.inl hv)
    · exact .inl (hv.2.2.trans hv'.2.2.symm)

/-- The number 2.5 as old writers stored it. -/
def legacyFloat : Column :=
  ⟨[0, 11], [0, 0, 0, 0, 64, 32, 0, 0]⟩

/-- The number 2.5 in the four bytes that its flags declare. -/
def shortFloat : Column :=
  ⟨[0, 11], [64, 32, 0, 0]⟩

/-- Two columns that store other bytes and have the same raw line. -/
theorem report_hides_zeros :
    legacyFloat.value ≠ shortFloat.value ∧
      (legacyFloat.report .raw [] 1356998400 "load" "").toOption =
        some "[0, 11]\t[64, 32, 0, 0]\t0\tf\t1356998400\t(Tue Jan 01 00:00:00 UTC 2013)" ∧
      (shortFloat.report .raw [] 1356998400 "load" "").toOption =
        some "[0, 11]\t[64, 32, 0, 0]\t0\tf\t1356998400\t(Tue Jan 01 00:00:00 UTC 2013)" := by
  decide +kernel

end Column

/-- Texts that show bytes tell which bytes they are about. A listing is of one byte string only, and
the text of a place of one row, or of one column in one row. So the message of a fault that was met
in a column names that column, and of one that was met in a key that key, whatever the cause, and
what is wrong with a key is not mistaken for what is wrong with a column. A raw line is of one point
only, and tells the bytes stored for it, except that an old float in eight bytes is shown without
its four zeros. -/
theorem shownBytes_identify :
    Function.Injective Bytes.signedListing ∧
      (∀ key key', Fault.wherePlace key = Fault.wherePlace key' → key = key') ∧
      (∀ key key' c c', Fault.whereColumn key c = Fault.whereColumn key' c' →
        key = key' ∧ c.qualifier = c'.qualifier ∧ c.value = c'.value) ∧
      (∀ key key' c, Fault.wherePlace key ≠ Fault.whereColumn key' c) ∧
      (∀ key key' c c' cause cause',
        (Fault.inColumn key c cause).message = (Fault.inColumn key' c' cause').message →
          key = key' ∧ c.qualifier = c'.qualifier ∧ c.value = c'.value) ∧
      (∀ key key' cause cause',
        (Fault.inKey key cause).message = (Fault.inKey key' cause').message → key = key') ∧
      (∀ key key' c cause cause',
        ((∃ flaw, cause = .key flaw) ∨ ∃ kind uid, cause = .unknownUid kind uid) →
          (Fault.inKey key cause).message ≠ (Fault.inColumn key' c cause').message) ∧
      (∀ (cell cell' : Cell) (base base' : Int) (line : String),
        cell.rawLine base = .ok line → cell'.rawLine base' = .ok line →
          cell = cell' ∧
            ∀ (c c' : Column) (q q' v v' : Bytes), c.Stores cell q v → c'.Stores cell' q' v' →
              q = q' ∧ (v = v' ∨ Column.Padded q v v' ∨ Column.Padded q v' v)) := by
  have hcolumn {key key' : Bytes} {c c' : Column}
      (h : key = key' ∧ c = c') : key = key' ∧ c.qualifier = c'.qualifier ∧ c.value = c'.value :=
    ⟨h.1, congrArg Column.qualifier h.2, congrArg Column.value h.2⟩
  refine ⟨Bytes.signedListing_injective, fun _ _ h => Fault.wherePlace_injective h, ?_,
    Fault.wherePlace_ne_whereColumn, ?_, fun _ _ _ _ h => Fault.message_inKey_inj h,
    fun key key' c cause cause' h => Fault.message_inKey_ne_inColumn h key key' c cause', ?_⟩
  · intro key key' c c' h
    have hchars := congrArg (·.toList ++ []) h
    obtain ⟨hkey, hc, -⟩ := Fault.whereColumn_append_inj.mp hchars
    exact hcolumn ⟨hkey, hc⟩
  · intro key key' c c' cause cause' h
    exact hcolumn (Fault.message_inColumn_inj h)
  · intro cell cell' base base' line h h'
    obtain rfl := Cell.rawLine_inj h h'
    exact ⟨rfl, fun c c' q q' v v' hc hc' => hc.eq_or_padded_of_cell hc'⟩

/-- The whole number 7 and the float 2.5, compacted. -/
def floatPair : Column :=
  ⟨[0, 0, 0, 11], [7, 64, 32, 0, 0, 1]⟩

/-- Bytes written as numbers are told by their texts, and a float in a compacted column from the
same one stored by an old writer by no more than the zeros. -/
theorem shownBytes_identify_float :
    (Bytes.signedListing (Bytes.encode 2 511) = Bytes.signedListing [1, 255] ∧
        Bytes.encode 2 511 = [1, 255]) ∧
      (Fault.wherePlace (Bytes.encode 3 511) = Fault.wherePlace [0, 1, 255] ∧
        Bytes.encode 3 511 = [0, 1, 255]) ∧
      (Fault.whereColumn [1] ⟨Bytes.encode 2 11, [7]⟩ = Fault.whereColumn [1] ⟨[0, 11], [7]⟩ ∧
        Bytes.encode 2 11 = [0, 11]) ∧
      ((Fault.inColumn [1] ⟨[0, 9], Bytes.encode 3 7⟩ (.point (.width 3 2))).message =
          (Fault.inColumn [1] ⟨[0, 9], [0, 0, 7]⟩ (.point (.width 3 2))).message ∧
        Bytes.encode 3 7 = [0, 0, 7]) ∧
      ((Fault.inKey (Bytes.encode 4 511) (.unknownUid .metric [0, 0, 1])).message =
          (Fault.inKey [0, 0, 1, 255] (.unknownUid .metric [0, 0, 1])).message ∧
        Bytes.encode 4 511 = [0, 0, 1, 255]) ∧
      (Fault.inKey [1] (.unknownUid .metric [1])).message ≠
        (Fault.inColumn [1] floatPair (.point (.width 3 2))).message ∧
      (∃ line, Cell.rawLine 1356998400 ⟨[0, 11], [64, 32, 0, 0]⟩ = .ok line) ∧
      Column.legacyFloat.Stores ⟨[0, 11], [64, 32, 0, 0]⟩ [0, 11] [0, 0, 0, 0, 64, 32, 0, 0] ∧
      floatPair.Stores ⟨[0, 11], [64, 32, 0, 0]⟩ [0, 11] [64, 32, 0, 0] ∧
      Column.Padded [0, 11] [0, 0, 0, 0, 64, 32, 0, 0] [64, 32, 0, 0] := by
  obtain ⟨hlisting, hplace, hcolumn, -, hfault, hkey, hapart, hline⟩ := shownBytes_identify
  have hlegacy : Column.legacyFloat.Stores ⟨[0, 11], [64, 32, 0, 0]⟩ [0, 11]
      [0, 0, 0, 0, 64, 32, 0, 0] := .alone (by decide +kernel)
  have hdecode : floatPair.decode? =
      some (.compacted ⟨[⟨[0, 0], [7]⟩] ++ ⟨[0, 11], [64, 32, 0, 0]⟩ :: [], [1]⟩) := by
    decide +kernel
  have hpair : floatPair.Stores ⟨[0, 11], [64, 32, 0, 0]⟩ [0, 11] [64, 32, 0, 0] :=
    .among hdecode rfl rfl
  obtain ⟨line, hraw⟩ : ∃ line, Cell.rawLine 1356998400 ⟨[0, 11], [64, 32, 0, 0]⟩ = .ok line :=
    ⟨_, rfl⟩
  obtain ⟨-, hstored⟩ := hline _ _ _ _ line hraw hraw
  have hpadded : Column.Padded [0, 11] [0, 0, 0, 0, 64, 32, 0, 0] [64, 32, 0, 0] := by
    rcases (hstored _ _ _ _ _ _ hlegacy hpair).2 with hsame | hpadded | hother
    · cases hsame
    · exact hpadded
    · cases hother.2.1
  have hbytes : Bytes.signedListing (Bytes.encode 2 511) = Bytes.signedListing [1, 255] := by
    decide +kernel
  have hrow : Fault.wherePlace (Bytes.encode 3 511) = Fault.wherePlace [0, 1, 255] := by
    decide +kernel
  have hpart : Fault.whereColumn [1] ⟨Bytes.encode 2 11, [7]⟩ =
      Fault.whereColumn [1] ⟨[0, 11], [7]⟩ := by
    decide +kernel
  have hmisfit : (Fault.inColumn [1] ⟨[0, 9], Bytes.encode 3 7⟩ (.point (.width 3 2))).message =
      (Fault.inColumn [1] ⟨[0, 9], [0, 0, 7]⟩ (.point (.width 3 2))).message := by
    decide +kernel
  have hunknown : (Fault.inKey (Bytes.encode 4 511) (.unknownUid .metric [0, 0, 1])).message =
      (Fault.inKey [0, 0, 1, 255] (.unknownUid .metric [0, 0, 1])).message := by
    decide +kernel
  exact ⟨⟨hbytes, hlisting hbytes⟩, ⟨hrow, hplace _ _ hrow⟩,
    ⟨hpart, (hcolumn _ _ _ _ hpart).2.1⟩, ⟨hmisfit, (hfault _ _ _ _ _ _ hmisfit).2.2⟩,
    ⟨hunknown, hkey _ _ _ _ hunknown⟩, hapart _ _ _ _ _ (.inr ⟨.metric, [1], rfl⟩),
    ⟨line, hraw⟩, hlegacy, hpair, hpadded⟩

end RawSeries
