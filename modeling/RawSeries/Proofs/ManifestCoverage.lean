import RawSeries.Proofs.ManifestLines
import RawSeries.Proofs.PurgeRecords

/-!
The coverage of manifests that were cut after any number of bytes. What it reports stands in whole
records, and none of them is forgotten, but the first record that is appended after a torn line.
-/

namespace RawSeries

open Manifest (text)

namespace Coverage

open Text (linesFrom stripChars)
open Utf8 (IsAscii asciiBytes)

variable {latest : List (Json × Json)} {records more : List Record} {r : Record} {reading : Reading}

theorem setStatus_same (metric : WideText) (s status : Json) (latest : List (Json × Json)) :
    setStatus ((.text metric, s) :: latest) (.text metric) status =
      (.text metric, status) :: latest := by
  have hsame : sameName (.text metric) (.text metric) = true := beq_self_eq_true metric
  rw [setStatus, if_pos hsame]

theorem setStatus_other {m metric : WideText} (h : m ≠ metric) (s status : Json)
    (latest : List (Json × Json)) :
    setStatus ((.text m, s) :: latest) (.text metric) status =
      (.text m, s) :: setStatus latest (.text metric) status := by
  have hother : sameName (.text m) (.text metric) = false := beq_eq_false_iff_ne.mpr h
  rw [setStatus, hother, if_neg Bool.false_ne_true]

/-- Each entry is of another metric. -/
inductive Named : List (Json × Json) → Prop where
  | nil : Named []
  | cons {metric : WideText} {s : Json} {latest : List (Json × Json)} (h : Named latest)
      (hnew : ∀ t, (.text metric, t) ∉ latest) : Named ((.text metric, s) :: latest)

theorem Named.mem_setStatus_iff (h : Named latest) (metric : WideText) (status : Json)
    (e : Json × Json) :
    e ∈ setStatus latest (.text metric) status ↔
      e = (.text metric, status) ∨ e.1 ≠ .text metric ∧ e ∈ latest := by
  induction h with
  | nil => simp [setStatus]
  | @cons m s latest h hnew ih =>
      by_cases hsame : m = metric
      · subst hsame
        have hrest : e ∈ latest → e.1 ≠ .text m := by
          intro he hname
          exact hnew e.2 (hname ▸ he)
        rw [setStatus_same, List.mem_cons, List.mem_cons]
        constructor
        · rintro (rfl | he)
          · exact .inl rfl
          · exact .inr ⟨hrest he, .inr he⟩
        · rintro (rfl | ⟨hne, rfl | he⟩)
          · exact .inl rfl
          · exact absurd rfl hne
          · exact .inr he
      · have hne : Json.text m ≠ .text metric := fun heq => hsame (Json.text.inj heq)
        rw [setStatus_other hsame, List.mem_cons, List.mem_cons, ih]
        constructor
        · rintro (rfl | rfl | ⟨hname, he⟩)
          · exact .inr ⟨hne, .inl rfl⟩
          · exact .inl rfl
          · exact .inr ⟨hname, .inr he⟩
        · rintro (rfl | ⟨hname, rfl | he⟩)
          · exact .inr (.inl rfl)
          · exact .inl rfl
          · exact .inr (.inr ⟨hname, he⟩)

theorem Named.setStatus (h : Named latest) (metric : WideText) (status : Json) :
    Named (setStatus latest (.text metric) status) := by
  induction h with
  | nil => exact .cons .nil nofun
  | @cons m s latest h hnew ih =>
      by_cases hsame : m = metric
      · subst hsame
        rw [setStatus_same]
        exact .cons h hnew
      · rw [setStatus_other hsame]
        refine .cons ih ?_
        intro t ht
        rcases (h.mem_setStatus_iff metric status _).mp ht with heq | ⟨-, ht⟩
        · exact hsame (Json.text.inj (Prod.mk.inj heq).1)
        · exact hnew t ht

/-- What was read of some records: the last status of each of their metrics. -/
structure Tallies (latest : List (Json × Json)) (records : List Record) : Prop where
  named : Named latest
  mem_iff : ∀ name status, (name, status) ∈ latest ↔ ∃ (metric : String) (s : Status),
    name = .text metric ∧ status = .text s.word ∧
      (Purge.statuses metric records).getLast? = some s

theorem Tallies.nil : Tallies [] [] where
  named := .nil
  mem_iff name status := by simp [Purge.statuses]

theorem Tallies.append (h : Tallies latest records) (r : Record) :
    Tallies (setStatus latest (.text r.metric) (.text r.status.word)) (records ++ [r]) where
  named := h.named.setStatus _ _
  mem_iff name status := by
    have hlast (metric : String) : (Purge.statuses metric (records ++ [r])).getLast? =
        if r.metric = metric then some r.status
        else (Purge.statuses metric records).getLast? := by
      rw [Purge.statuses_append]
      by_cases hmetric : r.metric = metric <;> simp [Purge.statuses, hmetric]
    rw [h.named.mem_setStatus_iff]
    simp only [hlast, h.mem_iff]
    constructor
    · rintro (heq | ⟨hne, metric, s, rfl, hstatus, hs⟩)
      · obtain ⟨rfl, rfl⟩ := Prod.mk.inj heq
        exact ⟨r.metric, r.status, rfl, rfl, if_pos rfl⟩
      · refine ⟨metric, s, rfl, hstatus, ?_⟩
        rw [if_neg, hs]
        exact fun hmetric => hne (congrArg (fun m : String => Json.text m) hmetric.symm)
    · rintro ⟨metric, s, rfl, rfl, hs⟩
      split at hs
      · rename_i hmetric
        cases hs
        exact .inl (by rw [hmetric])
      · rename_i hmetric
        refine .inr ⟨?_, metric, s, rfl, rfl, hs⟩
        rintro ⟨⟩
        exact hmetric rfl

theorem isBlank_brace : Text.isBlank '{' = false ∧ Text.isBlank '}' = false := by
  decide

theorem readLine_text (h : r.IsWritable) (number : Nat) :
    readLine reading number (String.ofList (text r)) = .ok { reading with
      latest := setStatus reading.latest (.text r.metric) (.text r.status.word) } := by
  obtain ⟨inner, htext⟩ := Manifest.text_ends r
  have hstrip : Text.strip (String.ofList (text r)) = String.ofList (text r) := by
    rw [Text.strip, String.toList_ofList, htext,
      Text.stripChars_eq_self isBlank_brace.1 isBlank_brace.2]
  have hne : String.ofList (text r) ≠ "" := by
    rw [ne_eq, String.ofList_eq_empty_iff]
    exact Manifest.text_ne_nil r
  simp only [readLine, hstrip, if_neg hne, Manifest.entry?_text h]

theorem readLine_unreadable {cs p junk : List Char} (h : r.IsWritable)
    (hstrip : stripChars cs = p ++ junk) (hp : p <+: text r) (hne : p ≠ [])
    (hjunk : Json.Junk junk) (hcut : p ≠ text r ∨ junk ≠ []) (number : Nat) :
    readLine reading number (String.ofList cs) =
      .ok { reading with unreadable := reading.unreadable ++ [number] } := by
  have hline : Text.strip (String.ofList cs) = String.ofList (p ++ junk) := by
    rw [Text.strip, String.toList_ofList, hstrip]
  have hfull : String.ofList (p ++ junk) ≠ "" := by
    rw [ne_eq, String.ofList_eq_empty_iff]
    exact List.append_ne_nil_of_left_ne_nil hne junk
  simp only [readLine, hline, if_neg hfull, Manifest.entry?_torn h hp hne hjunk hcut]

theorem readLine_torn {tail : List Char} (h : r.IsWritable) (htail : tail <+: text r)
    (hne : tail ≠ []) (hcut : tail ≠ text r) (number : Nat) :
    readLine reading number (String.ofList tail) =
      .ok { reading with unreadable := reading.unreadable ++ [number] } := by
  obtain ⟨inner, htext⟩ := Manifest.text_ends r
  obtain ⟨c, cs, rfl⟩ := List.exists_cons_of_ne_nil hne
  obtain rfl : c = '{' := (List.cons_prefix_cons.mp (htext ▸ htail)).1
  obtain ⟨hfront, hstart⟩ := Text.stripChars_prefix isBlank_brace.1 cs
  refine readLine_unreadable h (List.append_nil _).symm (hfront.trans htail) hstart .none ?_ number
  left
  intro hwhole
  exact hcut (htail.eq_of_length_le (hwhole ▸ hfront.length_le))

theorem readLine_joined {tail : List Char} {m : Record} (h : r.IsWritable) (hm : m.IsWritable)
    (htail : tail <+: text r) (hne : tail ≠ []) (number : Nat) :
    readLine reading number (String.ofList (tail ++ text m)) =
      .ok { reading with unreadable := reading.unreadable ++ [number] } := by
  obtain ⟨inner, htext⟩ := Manifest.text_ends r
  obtain ⟨last, hlast⟩ := Manifest.text_ends m
  obtain ⟨c, cs, rfl⟩ := List.exists_cons_of_ne_nil hne
  obtain rfl : c = '{' := (List.cons_prefix_cons.mp (htext ▸ htail)).1
  refine readLine_unreadable h ?_ htail hne (Manifest.junk_text hm)
    (.inr (Manifest.text_ne_nil m)) number
  have hends : '{' :: cs ++ text m = '{' :: ((cs ++ '{' :: last) ++ ['}']) := by
    rw [hlast]
    simp
  rw [hends, Text.stripChars_eq_self isBlank_brace.1 isBlank_brace.2]

theorem readLines_texts (reading : Reading) (h : ∀ r ∈ more, r.IsWritable)
    (ht : Tallies reading.latest records) (number : Nat) (lines : List (List Char)) :
    ∃ after number', Tallies after.latest (records ++ more) ∧
      readLines reading number ((more.map text ++ lines).map String.ofList) =
        readLines after number' (lines.map String.ofList) := by
  induction more generalizing reading records number with
  | nil => exact ⟨reading, number, by rwa [List.append_nil], rfl⟩
  | cons r more ih =>
      obtain ⟨hr, hmore⟩ := List.forall_mem_cons.mp h
      obtain ⟨after, number', hafter, hlines⟩ := ih { reading with
        latest := setStatus reading.latest (.text r.metric) (.text r.status.word) } hmore
        (ht.append r) (number + 1)
      refine ⟨after, number', by rwa [List.append_assoc] at hafter, ?_⟩
      rw [List.map_cons, List.cons_append, List.map_cons, readLines, readLine_text hr]
      exact hlines

/-- The coverage of a manifest is the metrics whose last status in some records is `done`. -/
def Reports (path : String) (file : Bytes) (records : List Record) : Prop :=
  ∃ names, (completed path (some file)).1 = .ok names ∧
    ∀ name, name ∈ names ↔ ∃ metric : String, name = .text metric ∧
      (Purge.statuses metric records).getLast?.map Status.word = some "done"

theorem Tallies.mem_done_iff (h : Tallies reading.latest records) (name : Json) :
    name ∈ reading.done ↔ ∃ metric : String, name = .text metric ∧
      (Purge.statuses metric records).getLast?.map Status.word = some "done" := by
  simp only [Reading.done, List.mem_map, List.mem_filter]
  constructor
  · rintro ⟨⟨_, status⟩, ⟨hentry, hdone⟩, rfl⟩
    obtain ⟨metric, s, hname, rfl, hs⟩ := (h.mem_iff _ _).mp hentry
    refine ⟨metric, hname, ?_⟩
    rw [hs, Option.map_some, WideText.plain.inj (eq_of_beq hdone)]
  · rintro ⟨metric, rfl, hlast⟩
    obtain ⟨s, hs, hword⟩ := Option.map_eq_some_iff.mp hlast
    refine ⟨(.text metric, .text s.word), ⟨?_, ?_⟩, rfl⟩
    · exact (h.mem_iff _ _).mpr ⟨metric, s, rfl, rfl, hs⟩
    · rw [hword]
      rfl

theorem reports_of_readLines {cs : List Char} (hascii : IsAscii cs)
    (hread : readLines ⟨[], []⟩ 1 ((linesFrom [] cs).map String.ofList) = (reading, none))
    (h : Tallies reading.latest records) (path : String) :
    Reports path (asciiBytes cs) records := by
  refine ⟨reading.done, ?_, h.mem_done_iff⟩
  simp only [completed, Manifest.ofBytes_ascii hascii, hread]

end Coverage

namespace Manifest

open Coverage (Reports Reading Tallies readLine readLines)
open Utf8 (asciiBytes)

variable {records more : List Record} {r m : Record} {tail : List Char}

theorem reports_of_lines (h : ∀ r ∈ records, r.IsWritable) {cs : List Char}
    (hascii : Utf8.IsAscii cs) (hlines : Text.linesFrom [] cs = records.map text) (path : String) :
    Reports path (asciiBytes cs) records := by
  obtain ⟨after, number, htallies, hread⟩ := Coverage.readLines_texts ⟨[], []⟩ h .nil 1 []
  rw [List.append_nil] at hread
  refine Coverage.reports_of_readLines hascii ?_ htallies path
  rw [hlines, hread]
  rfl

/-- What is reported of lines, a line that is read as no more than unreadable, and other lines. -/
theorem reports_around {line : List Char} (h : ∀ r ∈ records, r.IsWritable)
    (hmore : ∀ r ∈ more, r.IsWritable) {cs : List Char} (hascii : Utf8.IsAscii cs)
    (hlines : Text.linesFrom [] cs = records.map text ++ line :: more.map text)
    (hline : ∀ (reading : Reading) (number : Nat), readLine reading number (String.ofList line) =
      .ok { reading with unreadable := reading.unreadable ++ [number] }) (path : String) :
    Reports path (asciiBytes cs) (records ++ more) := by
  obtain ⟨before, number, hbefore, hread⟩ := Coverage.readLines_texts ⟨[], []⟩ h .nil 1
    (line :: more.map text)
  obtain ⟨after, last, hafter, hreadMore⟩ := Coverage.readLines_texts
    { before with unreadable := before.unreadable ++ [number] } hmore hbefore (number + 1) []
  refine Coverage.reports_of_readLines hascii ?_ hafter path
  rw [hlines, hread, List.map_cons, readLines, hline]
  rw [List.append_nil] at hreadMore
  exact hreadMore

theorem isAscii_torn (hr : r.IsWritable) (htail : tail <+: text r) : Utf8.IsAscii tail :=
  fun c hc => isAscii_of_printed (printed_text hr) c (htail.mem hc)

theorem unbroken_torn (hr : r.IsWritable) (htail : tail <+: text r) : Text.Unbroken tail :=
  fun c hc => unbroken_of_printed (printed_text hr) c (htail.mem hc)

theorem reports_torn (h : ∀ r ∈ records, r.IsWritable) (hr : r.IsWritable)
    (htail : tail <+: text r) (hne : tail ≠ []) (path : String) :
    Reports path (asciiBytes (chars records ++ tail))
      (records ++ if tail = text r then [r] else []) := by
  have hascii := isAscii_append (isAscii_chars h) (isAscii_torn hr htail)
  have hlines : Text.linesFrom [] (chars records ++ tail) = records.map text ++ [tail] := by
    rw [linesFrom_append h, Text.linesFrom_unended (unbroken_torn hr htail) [] (.inr hne)]
    rfl
  by_cases hwhole : tail = text r
  · have hall : ∀ other ∈ records ++ [r], other.IsWritable :=
      List.forall_mem_append.mpr ⟨h, List.forall_mem_singleton.mpr hr⟩
    rw [if_pos hwhole]
    refine reports_of_lines hall hascii ?_ path
    rw [hlines, hwhole, List.map_append, List.map_singleton]
  · rw [if_neg hwhole]
    exact reports_around h (List.forall_mem_nil _) hascii hlines
      (fun reading number => Coverage.readLine_torn hr htail hne hwhole number) path

theorem reports_joined (h : ∀ r ∈ records, r.IsWritable) (hr : r.IsWritable)
    (htail : tail <+: text r) (hne : tail ≠ []) (hm : m.IsWritable)
    (hmore : ∀ r ∈ more, r.IsWritable) (path : String) :
    Reports path (asciiBytes (chars records ++ tail ++ chars (m :: more))) (records ++ more) := by
  have hascii := isAscii_append (isAscii_append (isAscii_chars h) (isAscii_torn hr htail))
    (isAscii_chars (List.forall_mem_cons.mpr ⟨hm, hmore⟩))
  have hunbroken : Text.Unbroken (tail ++ text m) :=
    List.forall_mem_append.mpr ⟨unbroken_torn hr htail, unbroken_of_printed (printed_text hm)⟩
  have hlines : Text.linesFrom [] (chars records ++ tail ++ chars (m :: more)) =
      records.map text ++ (tail ++ text m) :: more.map text := by
    rw [List.append_assoc, linesFrom_append h, chars_cons, ← List.append_assoc tail,
      Text.linesFrom_ended hunbroken, linesFrom_chars hmore]
    rfl
  exact reports_around h hmore hascii hlines
    (fun reading number => Coverage.readLine_joined hr hm htail hne number) path

/-- At every cut of a manifest, and without one, its coverage is that of the records whose closing
braces are left. -/
theorem reports_survivors (records : List Record) (h : ∀ r ∈ records, r.IsWritable)
    (path : String) :
    (∀ n, Reports path ((records.foldl append []).take n) (survivors records n)) ∧
      Reports path (records.foldl append []) records := by
  rw [foldl_append_nil h]
  refine ⟨?_, reports_of_lines h (isAscii_chars h) (linesFrom_chars h) path⟩
  intro n
  have hended : ∀ r ∈ ended records n, r.IsWritable := fun r hr => h r (mem_of_mem_ended hr)
  rw [Utf8.take_asciiBytes]
  cases exists_cut h n with
  | clean hchars hsurvivors =>
      rw [hchars, hsurvivors]
      exact reports_of_lines hended (isAscii_chars hended) (linesFrom_chars hended) path
  | torn r hr tail hchars hne htail hsurvivors =>
      rw [hchars, hsurvivors]
      exact reports_torn hended (h r hr) htail hne path

/-- A name with quotes, a line break and two characters that are written in pairs of halves. -/
def sampleName : String :=
  "\"load\"\n" ++ String.ofList [Char.ofNat 1103873, Char.ofNat 1104896]

/-- A metric that is begun and done, and another one that fails. -/
def sampleRecords : List Record :=
  [⟨sampleName, .started, .whole 0, .whole 0, none, .whole 50⟩,
    ⟨sampleName, .done, .whole 2, .whole 7, none, .whole 51⟩,
    ⟨"größe", .failed, .whole 0, .whole 3, some "no \\ in\r\nhere", .whole 52⟩]

theorem sampleRecords_writable : ∀ r ∈ sampleRecords, r.IsWritable := by
  decide +kernel

theorem sampleRecords_sizes :
    sampleRecords.map (fun r => (Utf8.encode (line r)).length) = [120, 117, 114] := by
  rw [List.map_congr_left fun r hr => length_encode_line (sampleRecords_writable r hr)]
  decide +kernel

theorem reports_survivors_sample :
    (∀ r ∈ sampleRecords, r.IsWritable) ∧
      survivors sampleRecords 260 = sampleRecords.take 2 ∧
      Reports "manifest" ((sampleRecords.foldl append []).take 260) (sampleRecords.take 2) := by
  have hsizes := sampleRecords_sizes
  have hsurvivors : survivors sampleRecords 260 = sampleRecords.take 2 := by
    simp only [sampleRecords, List.map_cons, List.cons.injEq] at hsizes
    simp [sampleRecords, survivors, hsizes]
  have hreports := (reports_survivors sampleRecords sampleRecords_writable "manifest").1 260
  rw [hsurvivors] at hreports
  exact ⟨sampleRecords_writable, hsurvivors, hreports⟩

/-- New records after a cut. After whole lines none is lost, and after a line that is not ended, the
first is, with the record that it is joined to. -/
theorem reports_resumed (records more : List Record) (h : ∀ r ∈ records, r.IsWritable)
    (hmore : ∀ r ∈ more, r.IsWritable) (n : Nat) (path : String) :
    let cut := (records.foldl append []).take n
    (cut = [] ∨ cut.getLast? = some 10 →
      Reports path (more.foldl append cut) (survivors records n ++ more)) ∧
    (cut ≠ [] → cut.getLast? ≠ some 10 → more ≠ [] →
      Reports path (more.foldl append cut) (ended records n ++ more.tail)) := by
  intro cut
  have hcut : cut = asciiBytes ((chars records).take n) := by
    rw [← Utf8.take_asciiBytes, ← foldl_append_nil h]
  have hended : ∀ r ∈ ended records n, r.IsWritable := fun r hr => h r (mem_of_mem_ended hr)
  cases exists_cut h n with
  | clean hchars hsurvivors =>
      rw [hchars] at hcut
      have hall : ∀ r ∈ ended records n ++ more, r.IsWritable :=
        List.forall_mem_append.mpr ⟨hended, hmore⟩
      constructor
      · intro _
        rw [hcut, foldl_append hmore, ← chars_append, hsurvivors]
        exact reports_of_lines hall (isAscii_chars hall) (linesFrom_chars hall) path
      · intro hne hlast
        rw [hcut] at hne hlast
        exact absurd (getLast?_chars hne) hlast
  | torn r hr tail hchars hne htail _ =>
      rw [hchars] at hcut
      constructor
      · rintro (hnil | hlast)
        · rw [hcut] at hnil
          exact absurd (List.append_eq_nil_iff.mp (List.map_eq_nil_iff.mp hnil)).2 hne
        · rw [hcut] at hlast
          exact absurd hlast (getLast?_torn (h r hr) htail hne _)
      · intro _ _ hfirst
        obtain ⟨m, later, rfl⟩ := List.exists_cons_of_ne_nil hfirst
        obtain ⟨hm, hlater⟩ := List.forall_mem_cons.mp hmore
        rw [hcut, foldl_append hmore]
        exact reports_joined hended (h r hr) htail hne hm hlater path

def resumedRecords : List Record :=
  [⟨"store", .done, .whole 4, .whole 6, none, .whole 60⟩,
    ⟨"größe", .done, .whole 1, .whole 2, none, .whole 61⟩]

/-- Two lines are ended after 237 bytes, and the third one is torn after 260. -/
theorem reports_resumed_sample :
    (∀ r ∈ sampleRecords, r.IsWritable) ∧ (∀ r ∈ resumedRecords, r.IsWritable) ∧
      Reports "manifest" (resumedRecords.foldl append ((sampleRecords.foldl append []).take 237))
        (sampleRecords.take 2 ++ resumedRecords) ∧
      Reports "manifest" (resumedRecords.foldl append ((sampleRecords.foldl append []).take 260))
        (sampleRecords.take 2 ++ resumedRecords.tail) := by
  have hresumed : ∀ r ∈ resumedRecords, r.IsWritable := by decide +kernel
  have hsizes := sampleRecords_sizes
  simp only [sampleRecords, List.map_cons, List.cons.injEq] at hsizes
  have hwhole : survivors sampleRecords 237 = sampleRecords.take 2 := by
    simp [sampleRecords, survivors, hsizes]
  have htorn : ended sampleRecords 260 = sampleRecords.take 2 := by
    simp [sampleRecords, ended, hsizes]
  have hfile := foldl_append_nil sampleRecords_writable
  have hclean := (reports_resumed sampleRecords resumedRecords sampleRecords_writable hresumed 237
    "manifest").1 (.inr (by rw [hfile]; decide +kernel))
  have hjoined := (reports_resumed sampleRecords resumedRecords sampleRecords_writable hresumed 260
    "manifest").2 (by rw [hfile]; decide +kernel) (by rw [hfile]; decide +kernel)
    (List.cons_ne_nil _ _)
  rw [hwhole] at hclean
  rw [htorn] at hjoined
  exact ⟨sampleRecords_writable, hresumed, hclean, hjoined⟩

/-- A record that tells no more than the status of a metric. -/
def briefRecord (metric : String) (status : Status) : Record :=
  ⟨metric, status, .whole 0, .whole 0, none, .real .zero⟩

/-- A metric is done and is not reported, as its record was appended to a torn line. -/
theorem reports_resumed_lost :
    (briefRecord "a" .started).IsWritable ∧ (briefRecord "b" .done).IsWritable ∧
      ¬ Reports "manifest"
        ([briefRecord "b" .done].foldl append
          (([briefRecord "a" .started].foldl append []).take 18))
        (survivors [briefRecord "a" .started] 18 ++ [briefRecord "b" .done]) := by
  refine ⟨by decide +kernel, by decide +kernel, ?_⟩
  rintro ⟨names, hnames, hreports⟩
  have hdone : .text "b" ∈ names := (hreports _).mpr ⟨"b", rfl, by decide +kernel⟩
  have hcompleted : ((Coverage.completed "manifest" (some ([briefRecord "b" .done].foldl append
      (([briefRecord "a" .started].foldl append []).take 18)))).1.map List.isEmpty).toOption =
        some true := by decide +kernel
  rw [hnames] at hcompleted
  have hnone : names.isEmpty = true := Option.some.inj hcompleted
  rw [List.isEmpty_iff.mp hnone] at hdone
  cases hdone

end Manifest

end RawSeries
