import RawSeries.Proofs.ManifestTexts
import RawSeries.Proofs.TextLines

namespace RawSeries

namespace Utf8

def IsAscii (cs : List Char) : Prop :=
  ∀ c ∈ cs, c.toNat < 128

def asciiBytes (cs : List Char) : Bytes :=
  cs.map fun c => UInt8.ofNat c.toNat

theorem asciiBytes_append (a b : List Char) :
    asciiBytes (a ++ b) = asciiBytes a ++ asciiBytes b :=
  List.map_append

theorem take_asciiBytes (n : Nat) (cs : List Char) :
    (asciiBytes cs).take n = asciiBytes (cs.take n) :=
  List.map_take.symm

theorem encode_ascii {cs : List Char} (h : IsAscii cs) :
    encode (String.ofList cs) = asciiBytes cs := by
  rw [encode, String.toList_ofList]
  induction cs with
  | nil => rfl
  | cons c cs ih =>
      obtain ⟨hc, hcs⟩ := List.forall_mem_cons.mp h
      rw [List.flatMap_cons, ih hcs, encodeCode, if_pos hc]
      rfl

theorem start_ascii {c : Char} (h : c.toNat < 128) (rest : Bytes) :
    start (UInt8.ofNat c.toNat) rest = .character c.toNat 1 := by
  have hbyte : (UInt8.ofNat c.toNat).toNat = c.toNat := by
    rw [UInt8.toNat_ofNat']
    omega
  simp only [start, hbyte, if_pos h]

theorem leading_ascii {cs : List Char} (h : IsAscii cs) : leading (asciiBytes cs) = cs := by
  induction cs with
  | nil => rw [asciiBytes, List.map_nil, leading]
  | cons c cs ih =>
      obtain ⟨hc, hcs⟩ := List.forall_mem_cons.mp h
      have hrest := ih hcs
      rw [asciiBytes] at hrest ⊢
      rw [List.map_cons, leading, start_ascii hc]
      simp only [Nat.sub_self, List.drop_zero, hrest, Char.ofNat_toNat]

theorem faultAt?_ascii {cs : List Char} (h : IsAscii cs) : faultAt? (asciiBytes cs) = none := by
  induction cs with
  | nil => rw [asciiBytes, List.map_nil, faultAt?]
  | cons c cs ih =>
      obtain ⟨hc, hcs⟩ := List.forall_mem_cons.mp h
      have hrest := ih hcs
      rw [asciiBytes] at hrest ⊢
      rw [List.map_cons, faultAt?, start_ascii hc]
      simp only [Nat.sub_self, List.drop_zero, hrest, Option.map_none]

end Utf8

namespace Manifest

open Json (Printed)
open Utf8 (IsAscii asciiBytes)

variable {r : Record} {records : List Record}

def chars (records : List Record) : List Char :=
  records.flatMap fun r => text r ++ ['\n']

theorem chars_cons (r : Record) (records : List Record) :
    chars (r :: records) = text r ++ '\n' :: chars records := by
  simp [chars]

theorem chars_append (records more : List Record) :
    chars (records ++ more) = chars records ++ chars more :=
  List.flatMap_append

theorem isAscii_of_printed {cs : List Char} (h : Printed cs) : IsAscii cs := by
  intro c hc
  have hprinted := h c hc
  simp only [Json.isPrinted, Bool.and_eq_true, decide_eq_true_eq] at hprinted
  omega

theorem unbroken_of_printed {cs : List Char} (h : Printed cs) : Text.Unbroken cs := by
  intro c hc
  have hprinted := h c hc
  constructor <;> rintro rfl <;> exact absurd hprinted (by decide)

theorem isAscii_append {a b : List Char} (ha : IsAscii a) (hb : IsAscii b) : IsAscii (a ++ b) := by
  intro c hc
  rcases List.mem_append.mp hc with hc | hc
  · exact ha c hc
  · exact hb c hc

theorem isAscii_line (h : r.IsWritable) : IsAscii (text r ++ ['\n']) :=
  isAscii_append (isAscii_of_printed (printed_text h)) (List.forall_mem_singleton.mpr (by decide))

theorem isAscii_chars (h : ∀ r ∈ records, r.IsWritable) : IsAscii (chars records) := by
  intro c hc
  obtain ⟨r, hr, hc⟩ := List.mem_flatMap.mp hc
  exact isAscii_line (h r hr) c hc

theorem encode_line (h : r.IsWritable) :
    Utf8.encode (line r) = asciiBytes (text r ++ ['\n']) := by
  rw [← String.ofList_toList (s := line r), toList_line, Utf8.encode_ascii (isAscii_line h)]

theorem foldl_append (h : ∀ r ∈ records, r.IsWritable) (cs : List Char) :
    records.foldl append (asciiBytes cs) = asciiBytes (cs ++ chars records) := by
  induction records generalizing cs with
  | nil => rw [chars, List.flatMap_nil, List.append_nil, List.foldl_nil]
  | cons r records ih =>
      obtain ⟨hr, hrecords⟩ := List.forall_mem_cons.mp h
      rw [List.foldl_cons, append, encode_line hr, ← Utf8.asciiBytes_append, ih hrecords,
        List.append_assoc]
      simp [chars]

theorem foldl_append_nil (h : ∀ r ∈ records, r.IsWritable) :
    records.foldl append [] = asciiBytes (chars records) :=
  foldl_append h []

theorem ofBytes_ascii {cs : List Char} (h : IsAscii cs) :
    Coverage.ofBytes (asciiBytes cs) =
      Coverage.readLines ⟨[], []⟩ 1 ((Text.linesFrom [] cs).map String.ofList) := by
  simp only [Coverage.ofBytes, Utf8.faultAt?_ascii h, Utf8.leading_ascii h]

theorem linesFrom_append (h : ∀ r ∈ records, r.IsWritable) (tail : List Char) :
    Text.linesFrom [] (chars records ++ tail) = records.map text ++ Text.linesFrom [] tail := by
  induction records with
  | nil => rfl
  | cons r records ih =>
      obtain ⟨hr, hrecords⟩ := List.forall_mem_cons.mp h
      rw [chars_cons, List.append_assoc, List.cons_append,
        Text.linesFrom_ended (unbroken_of_printed (printed_text hr)), ih hrecords]
      rfl

theorem linesFrom_chars (h : ∀ r ∈ records, r.IsWritable) :
    Text.linesFrom [] (chars records) = records.map text := by
  have hlines := linesFrom_append h []
  rw [List.append_nil] at hlines
  rw [hlines]
  exact List.append_nil _

theorem getLast?_chars (h : asciiBytes (chars records) ≠ []) :
    (asciiBytes (chars records)).getLast? = some 10 := by
  rcases List.eq_nil_or_concat records with rfl | ⟨before, r, rfl⟩
  · exact absurd rfl h
  · have hends : chars (before.concat r) = (chars before ++ text r) ++ ['\n'] := by
      rw [List.concat_eq_append, chars_append, List.append_assoc]
      simp [chars]
    rw [hends, Utf8.asciiBytes_append]
    exact List.getLast?_concat

theorem getLast?_torn {tail : List Char} (hr : r.IsWritable) (htail : tail <+: text r)
    (hne : tail ≠ []) (before : List Char) :
    (asciiBytes (before ++ tail)).getLast? ≠ some 10 := by
  obtain ⟨init, c, rfl⟩ := (List.eq_nil_or_concat tail).resolve_left hne
  rw [List.concat_eq_append] at htail ⊢
  have hprinted := printed_text hr c (htail.mem (by simp))
  rw [← List.append_assoc, Utf8.asciiBytes_append]
  intro hlast
  have hbyte : UInt8.ofNat c.toNat = 10 := by
    rw [asciiBytes, asciiBytes, List.map_singleton, List.getLast?_concat] at hlast
    exact Option.some.inj hlast
  have hcode := congrArg UInt8.toNat hbyte
  rw [UInt8.toNat_ofNat'] at hcode
  simp only [Json.isPrinted, Bool.and_eq_true, decide_eq_true_eq] at hprinted
  have hten : (10 : UInt8).toNat = 10 := rfl
  omega

/-- The records whose closing braces are among the first `n` bytes of the manifest: of their lines
the line feed may be missing. -/
def survivors : List Record → Nat → List Record
  | [], _ => []
  | r :: rest, n =>
      let size := (Utf8.encode (line r)).length
      if size ≤ n + 1 then r :: survivors rest (n - size) else []

/-- The records whose lines are among the first `n` bytes of the manifest. -/
def ended : List Record → Nat → List Record
  | [], _ => []
  | r :: rest, n =>
      let size := (Utf8.encode (line r)).length
      if size ≤ n then r :: ended rest (n - size) else []

theorem text_ne_nil (r : Record) : text r ≠ [] := by
  obtain ⟨inner, hinner⟩ := text_ends r
  rw [hinner]
  exact List.cons_ne_nil _ _

theorem length_encode_line (h : r.IsWritable) :
    (Utf8.encode (line r)).length = (text r).length + 1 := by
  rw [encode_line h, asciiBytes, List.length_map, List.length_append, List.length_singleton]

theorem survivors_zero (h : ∀ r ∈ records, r.IsWritable) : survivors records 0 = [] := by
  cases records with
  | nil => rfl
  | cons r rest =>
      have hsize := length_encode_line (h r List.mem_cons_self)
      have hpos := List.length_pos_iff.mpr (text_ne_nil r)
      rw [survivors, if_neg (by omega)]

variable {rest : List Record} {n : Nat}

theorem ended_cons_of_le (hr : r.IsWritable) (hle : n ≤ (text r).length) :
    ended (r :: rest) n = [] := by
  have hsize := length_encode_line hr
  rw [ended, if_neg (by omega)]

theorem survivors_cons_of_le (h : ∀ other ∈ r :: rest, other.IsWritable)
    (hle : n ≤ (text r).length) :
    survivors (r :: rest) n = if (text r).take n = text r then [r] else [] := by
  obtain ⟨hr, hrest⟩ := List.forall_mem_cons.mp h
  have hsize := length_encode_line hr
  by_cases hwhole : (text r).length ≤ n
  · rw [survivors, if_pos (by omega), if_pos (List.take_of_length_le hwhole),
      Nat.sub_eq_zero_of_le (by omega), survivors_zero hrest]
  · have hlength : ((text r).take n).length = n := List.length_take_of_le hle
    have hcut : (text r).take n ≠ text r := by
      intro heq
      rw [heq] at hlength
      omega
    rw [survivors, if_neg (by omega), if_neg hcut]

theorem ended_cons (hr : r.IsWritable) (rest : List Record) (k : Nat) :
    ended (r :: rest) ((text r).length + (k + 1)) = r :: ended rest k := by
  have hsize := length_encode_line hr
  have hk : (text r).length + (k + 1) - (Utf8.encode (line r)).length = k := by omega
  rw [ended, if_pos (by omega), hk]

theorem survivors_cons (hr : r.IsWritable) (rest : List Record) (k : Nat) :
    survivors (r :: rest) ((text r).length + (k + 1)) = r :: survivors rest k := by
  have hsize := length_encode_line hr
  have hk : (text r).length + (k + 1) - (Utf8.encode (line r)).length = k := by omega
  rw [survivors, if_pos (by omega), hk]

theorem take_chars_cons (r : Record) (rest : List Record) (k : Nat) :
    (chars (r :: rest)).take ((text r).length + (k + 1)) =
      text r ++ '\n' :: (chars rest).take k := by
  rw [chars_cons, List.take_length_add_append, List.take_succ_cons]

theorem mem_of_mem_ended (h : r ∈ ended records n) : r ∈ records := by
  induction records generalizing n with
  | nil => cases h
  | cons first rest ih =>
      rw [ended] at h
      split at h
      · rcases List.mem_cons.mp h with rfl | h
        · exact List.mem_cons_self
        · exact List.mem_cons_of_mem first (ih h)
      · cases h

/-- The first bytes of a manifest are whole lines, or whole lines and the start of a record. -/
inductive Cut (records : List Record) (n : Nat) : Prop where
  | clean (hchars : (chars records).take n = chars (ended records n))
      (hsurvivors : survivors records n = ended records n)
  | torn (r : Record) (hr : r ∈ records) (tail : List Char)
      (hchars : (chars records).take n = chars (ended records n) ++ tail) (hne : tail ≠ [])
      (htail : tail <+: text r)
      (hsurvivors : survivors records n = ended records n ++ if tail = text r then [r] else [])

theorem exists_cut (h : ∀ r ∈ records, r.IsWritable) (n : Nat) : Cut records n := by
  induction records generalizing n with
  | nil => exact .clean (by simp [chars, ended]) rfl
  | cons r rest ih =>
      obtain ⟨hr, hrest⟩ := List.forall_mem_cons.mp h
      by_cases hle : n ≤ (text r).length
      · have hended : ended (r :: rest) n = [] := ended_cons_of_le hr hle
        have hchars : (chars (r :: rest)).take n = (text r).take n := by
          rw [chars_cons, List.take_append_of_le_length hle]
        have hsurvivors := survivors_cons_of_le h hle
        by_cases hnil : (text r).take n = []
        · refine .clean (by rw [hchars, hnil, hended]; rfl) ?_
          rw [hsurvivors, hended, hnil, if_neg (text_ne_nil r).symm]
        · refine .torn r List.mem_cons_self ((text r).take n) ?_ hnil (List.take_prefix n _) ?_
          · rw [hchars, hended]
            rfl
          · rw [hsurvivors, hended]
            rfl
      · obtain ⟨k, rfl⟩ : ∃ k, n = (text r).length + (k + 1) := ⟨n - (text r).length - 1, by omega⟩
        cases ih hrest k with
        | clean hlines hsame =>
            refine .clean ?_ (by rw [survivors_cons hr, ended_cons hr, hsame])
            rw [take_chars_cons, hlines, ended_cons hr, chars_cons]
        | torn other hother tail hlines hne htail hsame =>
            refine .torn other (List.mem_cons_of_mem r hother) tail ?_ hne htail ?_
            · rw [take_chars_cons, hlines, ended_cons hr, chars_cons, List.append_assoc,
                List.cons_append]
            · rw [survivors_cons hr, ended_cons hr, hsame, List.cons_append]

end Manifest

end RawSeries
