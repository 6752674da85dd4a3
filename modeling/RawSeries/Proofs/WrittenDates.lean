import RawSeries.Proofs.InstantFaults
import RawSeries.Proofs.NumberTexts
import RawSeries.Proofs.ShownUnits
import RawSeries.Proofs.TextLines

namespace RawSeries

namespace Calendar

open Decimal (Digits digits_padded extend)
open Numeral (padded lastDigits)

theorem fieldValue_append (cs : List Char) {d : Nat} (hd : d < 10) :
    fieldValue (cs ++ [Numeral.digitChar d]) = 10 * fieldValue cs + d := by
  have hall : ∀ d < 10, Text.digitValue? (Numeral.digitChar d) = some d := by decide
  simp [fieldValue, hall d hd]

theorem fieldValue_lastDigits {width n : Nat} (h : n < 10 ^ width) :
    fieldValue ((lastDigits width n).map Numeral.digitChar) = n := by
  induction width generalizing n with
  | zero =>
      obtain rfl : n = 0 := by simpa using h
      rfl
  | succ width ih =>
      rw [lastDigits, List.map_append, List.map_singleton,
        fieldValue_append _ (Nat.mod_lt n (by decide)),
        ih (Nat.div_lt_of_lt_mul (by rwa [← Nat.pow_succ']))]
      omega

theorem spelled?_append {ks : List CharClass} {cs : List Char} (h : ks.length ≤ cs.length)
    (rest : List Char) :
    spelled? ks (cs ++ rest) = (spelled? ks cs).map fun (taken, left) => (taken, left ++ rest) := by
  induction ks generalizing cs with
  | nil => rfl
  | cons k ks ih =>
      cases cs with
      | nil => simp at h
      | cons c cs =>
          simp only [List.cons_append, spelled?]
          split
          · rw [ih (Nat.le_of_succ_le_succ h), Option.map_map, Option.map_map]
            rfl
          · rfl

theorem spelled?_eq_some {ks : List CharClass} {cs taken rest : List Char}
    (h : spelled? ks cs = some (taken, rest)) : cs = taken ++ rest := by
  induction ks generalizing cs taken with
  | nil =>
      cases h
      rfl
  | cons k ks ih =>
      cases cs with
      | nil => cases h
      | cons c cs =>
          rw [spelled?] at h
          split at h
          · obtain ⟨⟨more, left⟩, hmore, heq⟩ := Option.map_eq_some_iff.mp h
            cases heq
            rw [ih hmore, List.cons_append]
          · cases h

/-- Digits that write a number in the first spelling of a field that fits them. No spelling of the
field is longer. -/
structure Field.Writes (f : Field) (ds : List Char) (n : Nat) : Prop where
  short : ∀ ks ∈ f.spellings, ks.length ≤ ds.length
  first : f.spellings.findSome? (spelled? · ds) = some (ds, [])
  value : fieldValue ds = n

theorem firstMatch?_field {f : Field} {ds rest left : List Char} {n : Nat} {items : List Item}
    {fields : List (Field × Nat)} (h : f.Writes ds n)
    (hrest : firstMatch? items rest = some (fields, left)) :
    firstMatch? (.field f :: items) (ds ++ rest) = some ((f, n) :: fields, left) := by
  obtain ⟨before, ks, after, hsplit, hks, hbefore⟩ := List.findSome?_eq_some_iff.mp h.first
  have hextend {ls : List CharClass} (hls : ls ∈ f.spellings) :=
    spelled?_append (h.short ls hls) rest
  rw [firstMatch?, List.findSome?_eq_some_iff]
  refine ⟨before, ks, after, hsplit, ?_, fun ls hls => ?_⟩
  · rw [hextend (by simp [hsplit]), hks]
    simp only [Option.map_some, List.nil_append, hrest, h.value]
  · rw [hextend (by simp [hsplit, hls]), hbefore ls hls]
    rfl

theorem firstMatch?_sign (x : Char) (items : List Item) (rest : List Char) :
    firstMatch? (.sign x :: items) (x :: rest) = firstMatch? items rest :=
  if_pos rfl

theorem not_blank_of_digit {c : Char} (h : Decimal.isDigit c = true) : Text.isBlank c = false := by
  simp only [Decimal.isDigit, Bool.and_eq_true, decide_eq_true_eq, Char.le_def,
    UInt32.le_iff_toNat_le] at h
  have hrange : 48 ≤ c.toNat ∧ c.toNat ≤ 57 := h
  simp only [Text.isBlank, Bool.or_eq_false_iff, Bool.and_eq_false_iff, decide_eq_false_iff_not,
    beq_eq_false_iff_ne]
  omega

theorem firstMatch?_gap {ds : List Char} (hds : Digits ds) (items : List Item)
    (rest : List Char) : firstMatch? (.gap :: items) (' ' :: (ds ++ rest)) =
      firstMatch? items (ds ++ rest) := by
  obtain ⟨c, cs, rfl⟩ := List.exists_cons_of_ne_nil hds.1
  have hblank : Text.isBlank ' ' = true := by decide
  have hc := not_blank_of_digit (hds.2 c List.mem_cons_self)
  simp [firstMatch?, hblank, hc]

theorem writes_padded {f : Field} {w n : Nat} (hn : n < 10 ^ (w + 1))
    (hshort : ∀ ks ∈ f.spellings, ks.length ≤ w + 1)
    (hfirst : f.spellings.findSome? (spelled? ·
      ((lastDigits (w + 1) n).map Numeral.digitChar)) =
        some ((lastDigits (w + 1) n).map Numeral.digitChar, [])) :
    f.Writes (padded (w + 1) n).toList n := by
  rw [Numeral.padded_eq hn]
  refine ⟨?_, hfirst, fieldValue_lastDigits hn⟩
  rwa [List.length_map, Numeral.length_lastDigits]

theorem writes_year {n : Nat} (hn : n ≤ 9999) : Field.year.Writes (padded 4 n).toList n := by
  have hall : ∀ d < 10, Text.isDecimal (Numeral.digitChar d) = true := by decide
  have hdigit (k : Nat) : Text.isDecimal (Numeral.digitChar (k % 10)) = true :=
    hall _ (Nat.mod_lt k (by decide))
  refine writes_padded (w := 3) (by omega) (by decide) ?_
  simp [Field.spellings, lastDigits, spelled?, hdigit]

/-- The numbers of the fields that are written with two digits. -/
def Field.holds : Field → Nat → Bool
  | .year, _ => false
  | .month, n => 1 ≤ n && n ≤ 12
  | .day, n => 1 ≤ n && n ≤ 31
  | .hour, n => n < 24
  | .minute, n => n < 60
  | .second, n => n < 60

theorem writes_two {f : Field} {n : Nat} (h : f.holds n = true) :
    f.Writes (padded 2 n).toList n := by
  have hn : n < 60 := by
    cases f <;> simp [Field.holds] at h <;> omega
  have hshort : ∀ ks ∈ f.spellings, ks.length ≤ 2 := by
    cases f with
    | year => cases h
    | month | day | hour | minute | second => decide
  have hfirst : ∀ n < 60, f.holds n = true →
      f.spellings.findSome? (spelled? · ((lastDigits 2 n).map Numeral.digitChar)) =
        some ((lastDigits 2 n).map Numeral.digitChar, []) := by
    cases f <;> decide
  exact writes_padded (w := 1) (by omega) hshort (hfirst n hn h)

/-- How often a sign stands in a pattern. -/
def signs (x : Char) : List Item → Nat
  | [] => 0
  | .sign c :: items => (if c = x then 1 else 0) + signs x items
  | .gap :: items => signs x items
  | .field _ :: items => signs x items

theorem signs_le {x : Char} {items : List Item} {cs : List Char}
    {found : List (Field × Nat) × List Char} (h : firstMatch? items cs = some found) :
    signs x items ≤ cs.count x := by
  induction items generalizing cs found with
  | nil => exact Nat.zero_le _
  | cons item items ih =>
      cases item with
      | sign c =>
          cases cs with
          | nil => cases h
          | cons d rest =>
              rw [firstMatch?] at h
              split at h
              · rename_i hd
                have hrest := ih h
                rw [signs, List.count_cons, hd]
                simp only [beq_iff_eq]
                omega
              · cases h
      | gap =>
          cases cs with
          | nil => cases h
          | cons d rest =>
              rw [firstMatch?] at h
              split at h
              · calc signs x items ≤ (rest.dropWhile Text.isBlank).count x := ih h
                  _ ≤ rest.count x := (List.dropWhile_sublist _).count_le x
                  _ ≤ (d :: rest).count x := (List.sublist_cons_self d rest).count_le x
              · cases h
      | field f =>
          rw [firstMatch?, List.findSome?_eq_some_iff] at h
          obtain ⟨-, ks, -, -, hks, -⟩ := h
          split at hks
          · cases hks
          · rename_i taken rest hspelled
            obtain ⟨inner, hinner, -⟩ := Option.map_eq_some_iff.mp hks
            rw [spelled?_eq_some hspelled, List.count_append]
            exact Nat.le_add_left_of_le (ih hinner)

theorem read?_eq_none {x : Char} {items : List Item} {cs : List Char}
    (h : cs.count x < signs x items) : read? items cs = none := by
  have hnone : firstMatch? items cs = none := by
    rw [Option.eq_none_iff_forall_ne_some]
    exact fun found hfound => absurd (signs_le (x := x) hfound) (Nat.not_le.mpr h)
  simp only [read?, hnone]

namespace Moment

variable {m : Moment}

def dayText (m : Moment) : String :=
  padded 4 m.date.year ++ "/" ++ padded 2 m.date.month ++ "/" ++ padded 2 m.date.day

def minuteText (m : Moment) : String :=
  padded 2 m.hour ++ ":" ++ padded 2 m.minute

def secondText (m : Moment) : String :=
  m.minuteText ++ ":" ++ padded 2 m.second

theorem firstMatch?_day (hm : m.IsProper) {items : List Item} {rest left : List Char}
    {fields : List (Field × Nat)} (hrest : firstMatch? items rest = some (fields, left)) :
    firstMatch? (day ++ items) (m.dayText.toList ++ rest) =
      some ((.year, m.date.year) :: (.month, m.date.month) :: (.day, m.date.day) :: fields,
        left) := by
  obtain ⟨hyear, hjanuary, hdecember, hfirst, hlast⟩ := hm.bounds
  have hmonth : Field.month.holds m.date.month = true := by
    simp only [Field.holds, hjanuary, hdecember, decide_true, Bool.and_self]
  have hday : Field.day.holds m.date.day = true := by
    simp only [Field.holds, hfirst, hlast, decide_true, Bool.and_self]
  have hslash : "/".toList = ['/'] := rfl
  simp only [dayText, day, String.toList_append, hslash, List.append_assoc, List.cons_append,
    List.nil_append]
  refine firstMatch?_field (writes_year hyear) ?_
  rw [firstMatch?_sign]
  refine firstMatch?_field (writes_two hmonth) ?_
  rw [firstMatch?_sign]
  exact firstMatch?_field (writes_two hday) hrest

theorem firstMatch?_minutes (hm : m.IsProper) {items : List Item} {rest left : List Char}
    {fields : List (Field × Nat)} (hrest : firstMatch? items rest = some (fields, left)) :
    firstMatch? (minutes ++ items) (m.minuteText.toList ++ rest) =
      some ((.hour, m.hour) :: (.minute, m.minute) :: fields, left) := by
  have hcolon : ":".toList = [':'] := rfl
  simp only [minuteText, minutes, String.toList_append, hcolon, List.append_assoc,
    List.cons_append, List.nil_append]
  refine firstMatch?_field (writes_two (decide_eq_true hm.hour)) ?_
  rw [firstMatch?_sign]
  exact firstMatch?_field (writes_two (decide_eq_true hm.minute)) hrest

theorem firstMatch?_seconds (hm : m.IsProper) :
    firstMatch? (minutes ++ [.sign ':', .field .second]) m.secondText.toList =
      some ([(.hour, m.hour), (.minute, m.minute), (.second, m.second)], []) := by
  have hcolon : ":".toList = [':'] := rfl
  have hnil : firstMatch? [] [] = some ([], []) := rfl
  have hsecond := firstMatch?_field (writes_two (f := .second) (decide_eq_true hm.second)) hnil
  rw [List.append_nil] at hsecond
  rw [secondText, String.toList_append, String.toList_append, List.append_assoc]
  refine firstMatch?_minutes hm ?_
  rwa [hcolon, List.singleton_append, firstMatch?_sign]

def atMinute (m : Moment) : Moment :=
  ⟨m.date, m.hour, m.minute, 0⟩

def atDay (m : Moment) : Moment :=
  ⟨m.date, 0, 0, 0⟩

theorem IsProper.atMinute (hm : m.IsProper) : m.atMinute.IsProper :=
  ⟨hm.date, hm.hour, hm.minute, Nat.zero_lt_succ 59⟩

theorem IsProper.atDay (hm : m.IsProper) : m.atDay.IsProper :=
  ⟨hm.date, Nat.zero_lt_succ 23, Nat.zero_lt_succ 59, Nat.zero_lt_succ 59⟩

theorem toSeconds_atMinute (hm : m.IsProper) : m.atMinute.toSeconds = m.toSeconds / 60 * 60 := by
  have hsecond := hm.second
  simp only [toSeconds, Moment.atMinute]
  omega

theorem toSeconds_atDay (hm : m.IsProper) : m.atDay.toSeconds = m.toSeconds / 86400 * 86400 := by
  have hhour := hm.hour
  have hminute := hm.minute
  have hsecond := hm.second
  simp only [toSeconds, Moment.atDay]
  omega

theorem read?_eq_some {items : List Item} {cs : List Char} {fields : List (Field × Nat)}
    (hm : m.IsProper) (h : firstMatch? items cs = some (fields, []))
    (hfields : (⟨⟨fieldOr fields .year 1, fieldOr fields .month 1, fieldOr fields .day 1⟩,
      fieldOr fields .hour 0, fieldOr fields .minute 0, fieldOr fields .second 0⟩ : Moment) = m) :
    read? items cs = some m := by
  subst hfields
  have hdate := hm.date
  have hsecond := hm.second
  have htest := Bool.and_eq_true_iff.mpr ⟨hdate, decide_eq_true (Nat.le_of_lt_succ hsecond)⟩
  simp only [read?, h]
  exact if_pos htest

theorem absolute?_eq_some (before : List (List Item)) {after : List (List Item)}
    {items : List Item} {cs : List Char} (hpatterns : patterns = before ++ items :: after)
    (h : read? items cs = some m) (hbefore : ∀ others ∈ before, read? others cs = none)
    (hfirst : firstSecond ≤ m.toSeconds) :
    absolute? cs = some m.toSeconds := by
  rw [absolute?, List.findSome?_eq_some_iff]
  refine ⟨before, items, after, hpatterns, ?_, fun others hothers => ?_⟩
  · rw [h, Option.bind_some, if_neg (Int.not_lt.mpr hfirst)]
  · rw [hbefore others hothers, Option.bind_none]

theorem count_padded {x : Char} (hx : Decimal.isDigit x = false) (width n : Nat) :
    (padded width n).toList.count x = 0 := by
  rw [List.count_eq_zero]
  intro hmem
  exact absurd ((digits_padded width n).2 x hmem) (by simp [hx])

theorem count_dayText {x : Char} (hx : Decimal.isDigit x = false) (hslash : x ≠ '/') :
    m.dayText.toList.count x = 0 := by
  simp [dayText, List.count_append, count_padded hx, hslash.symm]

theorem count_minuteText {x : Char} (hx : Decimal.isDigit x = false) :
    m.minuteText.toList.count x = [':'].count x := by
  simp [minuteText, List.count_append, List.count_cons, count_padded hx]

theorem absolute?_seconds (hm : m.IsProper) (hfirst : firstSecond ≤ m.toSeconds) :
    absolute? (m.dayText.toList ++ '-' :: m.secondText.toList) = some m.toSeconds := by
  have hmatch := firstMatch?_day hm
    ((firstMatch?_sign '-' _ m.secondText.toList).trans (firstMatch?_seconds hm))
  exact absolute?_eq_some [] rfl (read?_eq_some hm hmatch rfl) nofun hfirst

theorem absolute?_minutes (hm : m.IsProper) (hfirst : firstSecond ≤ m.atMinute.toSeconds) :
    absolute? (m.dayText.toList ++ '-' :: m.minuteText.toList) = some m.atMinute.toSeconds := by
  have hnil : firstMatch? [] [] = some ([], []) := rfl
  have hminutes := firstMatch?_minutes hm hnil
  rw [List.append_nil, List.append_nil] at hminutes
  have hmatch := firstMatch?_day hm
    ((firstMatch?_sign '-' minutes m.minuteText.toList).trans hminutes)
  refine absolute?_eq_some (patterns.take 1) rfl (read?_eq_some hm.atMinute hmatch rfl)
    ?_ hfirst
  -- the first pattern has one colon more
  refine List.forall_mem_singleton.mpr (read?_eq_none (x := ':') ?_)
  rw [List.count_append, List.count_cons, count_dayText rfl (by decide), count_minuteText rfl]
  decide

theorem absolute?_spaced (hm : m.IsProper) (hfirst : firstSecond ≤ m.toSeconds) :
    absolute? (m.dayText.toList ++ ' ' :: m.secondText.toList) = some m.toSeconds := by
  have hhour : m.secondText.toList = (padded 2 m.hour).toList ++
      (":" ++ padded 2 m.minute ++ ":" ++ padded 2 m.second).toList := by
    simp [secondText, minuteText]
  have hgap := firstMatch?_gap (digits_padded 2 m.hour)
    (minutes ++ [.sign ':', .field .second])
    (":" ++ padded 2 m.minute ++ ":" ++ padded 2 m.second).toList
  rw [← hhour] at hgap
  have hmatch := firstMatch?_day hm (hgap.trans (firstMatch?_seconds hm))
  refine absolute?_eq_some (patterns.take 2) rfl (read?_eq_some hm hmatch rfl) ?_ hfirst
  have hcount : (m.dayText.toList ++ ' ' :: m.secondText.toList).count '-' = 0 := by
    have hdigit : Decimal.isDigit '-' = false := rfl
    simp [secondText, List.count_append, count_dayText hdigit, count_minuteText hdigit,
      count_padded hdigit]
  intro others hothers
  refine read?_eq_none (x := '-') (hcount.trans_lt ?_)
  revert others
  decide

theorem absolute?_day (hm : m.IsProper) (hfirst : firstSecond ≤ m.atDay.toSeconds) :
    absolute? m.dayText.toList = some m.atDay.toSeconds := by
  have hnil : firstMatch? [] [] = some ([], []) := rfl
  have hmatch := firstMatch?_day hm hnil
  rw [List.append_nil, List.append_nil] at hmatch
  refine absolute?_eq_some (patterns.take 3) rfl (read?_eq_some hm.atDay hmatch rfl) ?_
    hfirst
  have hcount : m.dayText.toList.count ':' = 0 := count_dayText rfl (by decide)
  intro others hothers
  refine read?_eq_none (x := ':') (hcount.trans_lt ?_)
  revert others
  decide

end Moment

end Calendar

namespace Instant

open Calendar (Moment absolute? dateText)
open Decimal (Digits digits_padded)
open Numeral (padded)

theorem read_date {now : Quantity} {given : String} {first last : List Char} {s : Int}
    (inner : List Char) (hfirst : Digits first) (hlast : Digits last) (hinner : '/' ∈ inner)
    (htext : given.toList = first ++ (inner ++ last)) (hs : absolute? given.toList = some s) :
    read now given = .ok s := by
  obtain ⟨c, cs, rfl⟩ := List.exists_cons_of_ne_nil hfirst.1
  obtain ⟨ds, d, rfl⟩ := List.eq_nil_or_concat last |>.resolve_left hlast.1
  have hc := hfirst.2 c List.mem_cons_self
  have hd := hlast.2 d (by simp)
  have hwhole : given.toList = c :: ((cs ++ inner ++ ds) ++ [d]) := by simpa using htext
  have hstrip : Text.strip given = given := by
    rw [Text.strip, hwhole, Text.stripChars_eq_self (Calendar.not_blank_of_digit hc)
      (Calendar.not_blank_of_digit hd), ← hwhole, String.ofList_toList]
  have hslash : '/' ∈ given.toList := by
    rw [htext]
    simp [hinner]
  have hnow : given ≠ "now" := by
    rintro rfl
    exact absurd hslash (by decide)
  have hago : ago? given = none := by
    cases hago : ago? given with
    | none => rfl
    | some duration =>
        rw [ago?_eq_some_iff, hwhole, ← List.cons_append] at hago
        have hend := congrArg List.getLast? hago
        rw [List.getLast?_append, List.getLast?_append] at hend
        obtain rfl : d = 'o' := Option.some.inj hend
        exact absurd hd (by decide)
  have hdigits : ¬(given.toList ≠ [] ∧ given.toList.all Text.isDigit = true) := by
    rintro ⟨-, hall⟩
    exact absurd (List.all_eq_true.mp hall '/' hslash) (by decide)
  simp only [read, hstrip, if_neg hnow, hago, if_neg hdigits, hs]

/-- The text of a moment in each of the patterns, read as an instant: the moment itself, the start
of its minute, or that of its day. -/
structure ReadsWritten (now : Quantity) (m : Moment) (s : Int) : Prop where
  seconds : read now (m.dayText ++ "-" ++ m.secondText) = .ok s
  spaced : read now (m.dayText ++ " " ++ m.secondText) = .ok s
  minutes : read now (m.dayText ++ "-" ++ m.minuteText) = .ok (s / 60 * 60)
  day : read now m.dayText = .ok (s / 86400 * 86400)

theorem readsWritten (now : Quantity) {m : Moment} (hm : m.IsProper)
    (h : Calendar.firstSecond ≤ m.atDay.toSeconds) : ReadsWritten now m m.toSeconds := by
  have hday := Moment.toSeconds_atDay hm
  have hminute := Moment.toSeconds_atMinute hm
  have hyear := digits_padded 4 m.date.year
  constructor
  · refine read_date ("/" ++ padded 2 m.date.month ++ "/" ++ padded 2 m.date.day ++
      "-" ++ m.minuteText ++ ":").toList hyear (digits_padded 2 m.second) ?_ ?_ ?_
    · simp
    · simp [Moment.dayText, Moment.secondText]
    · have hs := Moment.absolute?_seconds hm (by omega)
      simpa using hs
  · refine read_date ("/" ++ padded 2 m.date.month ++ "/" ++ padded 2 m.date.day ++
      " " ++ m.minuteText ++ ":").toList hyear (digits_padded 2 m.second) ?_ ?_ ?_
    · simp
    · simp [Moment.dayText, Moment.secondText]
    · have hs := Moment.absolute?_spaced hm (by omega)
      simpa using hs
  · refine read_date ("/" ++ padded 2 m.date.month ++ "/" ++ padded 2 m.date.day ++
      "-" ++ padded 2 m.hour ++ ":").toList hyear (digits_padded 2 m.minute) ?_ ?_ ?_
    · simp
    · simp [Moment.dayText, Moment.minuteText]
    · have hs := Moment.absolute?_minutes hm (by omega)
      rw [hminute] at hs
      simpa using hs
  · refine read_date ("/" ++ padded 2 m.date.month ++ "/").toList hyear
      (digits_padded 2 m.date.day) ?_ ?_ ?_
    · simp
    · simp [Moment.dayText]
    · have hs := Moment.absolute?_day hm h
      rwa [hday] at hs

/-- The date that is printed for a timestamp in seconds, written by each of the patterns, is read as
the timestamp, as the start of its minute, or as that of its day. A timestamp in milliseconds has
the date of its seconds. -/
theorem reads_printed (now : Quantity) {t : Int} (ht : 0 ≤ t) (hseconds : t < 4294967296)
    {millis : Int} (hfirst : 4294967296 ≤ millis) (hlast : millis < 1000 * 4294967296) :
    (∃ m : Moment, m.IsProper ∧ dateText t = .ok m.text) ∧
      (∀ m : Moment, m.IsProper → dateText t = .ok m.text → ReadsWritten now m t) ∧
      dateText millis = dateText (millis / 1000) := by
  have hplain {s : Int} (hs : 0 ≤ s) (hs' : s < 4294967296) : Calendar.seconds? s = some s := by
    have hguess : Calendar.isMillis s = false := by
      rw [Bool.eq_false_iff, ne_eq, Calendar.isMillis_iff hs (by omega)]
      omega
    rw [Calendar.seconds?, hguess]
    rfl
  have hbounds {s : Int} (hs : 0 ≤ s) (hs' : s < 4294967296) :
      Calendar.firstSecond ≤ s / 86400 * 86400 ∧ s ≤ Calendar.lastSecond := by
    unfold Calendar.firstSecond Calendar.lastSecond
    omega
  obtain ⟨hleast, hgreatest⟩ := hbounds ht hseconds
  obtain ⟨text, htext, ⟨m, hm, rfl⟩, hvalue⟩ :=
    Calendar.dateText_of_seconds (hplain ht hseconds) (by omega) hgreatest
  refine ⟨⟨m, hm, htext⟩, fun n hn hprinted => ?_, ?_⟩
  · have hown := hvalue n hn (Except.ok.inj (hprinted.symm.trans htext))
    have hreads := readsWritten now hn (by rwa [Moment.toSeconds_atDay hn, hown])
    rwa [hown] at hreads
  · have hguess : Calendar.isMillis millis = true :=
      (Calendar.isMillis_iff (by omega) (by omega)).mpr hfirst
    have hmillis : Calendar.seconds? millis = some (millis / 1000) := by
      rw [Calendar.seconds?, hguess, if_pos rfl, if_pos (by omega)]
    rw [dateText, dateText, Calendar.moment, Calendar.moment, hmillis,
      hplain (by omega) (by omega)]

theorem reads_printed_last :
    let t : Int := 4294967295
    let millis : Int := 4294967296
    (0 ≤ t ∧ t < 4294967296 ∧ 4294967296 ≤ millis ∧ millis < 1000 * 4294967296) ∧
      (∃ m : Moment, m.IsProper ∧ dateText t = .ok m.text) ∧
      (∀ m : Moment, m.IsProper → dateText t = .ok m.text → ReadsWritten (.whole 0) m t) ∧
      dateText millis = dateText (millis / 1000) :=
  ⟨by decide, reads_printed (.whole 0) (by decide) (by decide) (by decide) (by decide)⟩

end Instant

end RawSeries
