import RawSeries.Json.Reader
import RawSeries.Json.Writer
import RawSeries.Proofs.DecimalTexts
import RawSeries.Proofs.JsonTexts

namespace RawSeries

namespace Decimal

/-- The number that digits write after a number. -/
def extend (value : Nat) (ds : List Char) : Nat :=
  ds.foldl (fun n c => 10 * n + (c.toNat - 48)) value

theorem spanDigits_eq (cs : List Char) (value count : Nat) :
    spanDigits cs value count =
      (extend value (cs.takeWhile isDigit), count + (cs.takeWhile isDigit).length,
        cs.dropWhile isDigit) := by
  induction cs generalizing value count with
  | nil => rfl
  | cons c cs ih =>
      by_cases hc : '0' ≤ c ∧ c ≤ '9'
      · have hdigit : isDigit c = true := by simpa [isDigit] using hc
        rw [spanDigits, if_pos hc, ih, List.takeWhile_cons_of_pos hdigit,
          List.dropWhile_cons_of_pos hdigit, List.length_cons, Nat.add_assoc, Nat.add_comm 1]
        rfl
      · have hdigit : ¬isDigit c = true := by simpa [isDigit] using hc
        rw [spanDigits, if_neg hc, List.takeWhile_cons_of_neg hdigit,
          List.dropWhile_cons_of_neg hdigit]
        rfl

def Stops (cs : List Char) : Prop :=
  ∀ c rest, cs = c :: rest → isDigit c = false

theorem stops_cons {c : Char} (h : isDigit c = false) (rest : List Char) : Stops (c :: rest) := by
  rintro _ _ ⟨⟩
  exact h

theorem spanDigits_append {ds rest : List Char} (hds : ∀ c ∈ ds, isDigit c = true)
    (hrest : Stops rest) (value count : Nat) :
    spanDigits (ds ++ rest) value count =
      (extend value ds, count + ds.length, rest) := by
  have hnone : rest.takeWhile isDigit = [] ∧ rest.dropWhile isDigit = rest := by
    cases rest with
    | nil => exact ⟨rfl, rfl⟩
    | cons c cs =>
        have hc : ¬isDigit c = true := by simp [hrest c cs rfl]
        exact ⟨List.takeWhile_cons_of_neg hc, List.dropWhile_cons_of_neg hc⟩
  rw [spanDigits_eq, List.takeWhile_append_of_pos hds, List.dropWhile_append_of_pos hds, hnone.1,
    hnone.2, List.append_nil]

end Decimal

namespace Json

open Decimal (Digits Fraction Power Unsigned isDigit Stops stops_cons)

def isDelimiter (c : Char) : Bool :=
  c == ',' || c == '}'

theorem isDigit_of_delimiter {d : Char} (h : isDelimiter d = true) : isDigit d = false := by
  simp only [isDelimiter, Bool.or_eq_true, beq_iff_eq] at h
  rcases h with rfl | rfl <;> decide

theorem fraction?_eq_none {cs : List Char} (h : ∀ rest, cs ≠ '.' :: rest) (n : Nat) :
    fraction? n cs = none := by
  unfold fraction?
  split
  · rename_i rest
    exact absurd rfl (h rest)
  · rfl

theorem exponent?_of_delimiter {d : Char} (h : isDelimiter d = true) (rest : List Char) :
    exponent? (d :: rest) = none := by
  simp only [isDelimiter, Bool.or_eq_true, beq_iff_eq] at h
  rcases h with rfl | rfl <;> rfl

theorem exponent?_power {power : List Char} (h : Power power) :
    ∃ n : Option Int, (n = none → power = []) ∧ ∀ d rest, isDelimiter d = true →
      exponent? (power ++ d :: rest) = n.map fun n => (n, d :: rest) := by
  cases h with
  | none => exact ⟨none, fun _ => rfl, fun d rest hd => exponent?_of_delimiter hd rest⟩
  | @ten sign hsign ds hds =>
      have hlength : ds.length ≠ 0 := fun h => hds.1 (List.length_eq_zero_iff.mp h)
      have hspan (d : Char) (rest : List Char) (hd : isDelimiter d = true) :=
        Decimal.spanDigits_append hds.2 (stops_cons (isDigit_of_delimiter hd) rest) 0 0
      rcases hsign with rfl | rfl
      · refine ⟨some (Decimal.extend 0 ds : Nat), nofun, fun d rest hd => ?_⟩
        simp [exponent?, hspan d rest hd, hlength]
      · refine ⟨some (-(Decimal.extend 0 ds : Nat)), nofun, fun d rest hd => ?_⟩
        simp [exponent?, hspan d rest hd, hlength]

theorem stops_power {power : List Char} (h : Power power) {d : Char} (hd : isDelimiter d = true)
    (rest : List Char) : Stops (power ++ d :: rest) := by
  cases h with
  | none => exact stops_cons (isDigit_of_delimiter hd) rest
  | ten => exact stops_cons (by decide) _

theorem ne_point_power {power : List Char} (h : Power power) {d : Char} (hd : isDelimiter d = true)
    (rest left : List Char) : power ++ d :: rest ≠ '.' :: left := by
  cases h with
  | none =>
      rintro ⟨⟩
      exact absurd hd (by decide)
  | ten => nofun

theorem fraction?_fraction {fraction power : List Char} (h : Fraction fraction)
    (hpower : Power power) (n : Nat) :
    ∃ part : Option (Nat × Nat), (part = none → fraction = []) ∧
      ∀ d rest, isDelimiter d = true → Stops (fraction ++ (power ++ d :: rest)) ∧
        fraction? n (fraction ++ (power ++ d :: rest)) =
          part.map fun p => (p.1, p.2, power ++ d :: rest) := by
  cases h with
  | none =>
      refine ⟨none, fun _ => rfl, fun d rest hd => ⟨stops_power hpower hd rest, ?_⟩⟩
      exact fraction?_eq_none (ne_point_power hpower hd rest) n
  | @places ds hds =>
      have hlength : ds.length ≠ 0 := fun h => hds.1 (List.length_eq_zero_iff.mp h)
      refine ⟨some (Decimal.extend n ds, ds.length), nofun, fun d rest hd => ?_⟩
      have hspan := Decimal.spanDigits_append hds.2 (stops_power hpower hd rest) n 0
      refine ⟨stops_cons (by decide) _, ?_⟩
      simp only [List.cons_append, fraction?, hspan, Nat.zero_add, if_neg hlength]
      rfl

/-- The digits at the start of a number: what they write, their count, and the rest. A zero stands
alone. -/
def wholePart (cs : List Char) : Nat × Nat × List Char :=
  match cs with
  | '0' :: more => (0, 1, more)
  | _ => Decimal.spanDigits cs 0 0

def afterDigits (negative : Bool) (coefficient count : Nat) (rest : List Char) :
    Except Flaw (Json × List Char) :=
  if count = 0 then .error .malformed
  else
    let part := fraction? coefficient rest
    let afterFraction := (part.map fun p => p.2.2).getD rest
    let power := exponent? afterFraction
    if part.isNone ∧ power.isNone then
      if maxDigits < count then .error (.tooManyDigits count)
      else .ok (.whole (if negative then -(coefficient : Int) else coefficient), rest)
    else
      let digits := (part.map fun p => p.1).getD coefficient
      let places := (part.map fun p => p.2.1).getD 0
      let exponent := (power.map fun p => p.1).getD 0
      let left := (power.map fun p => p.2).getD afterFraction
      .ok (.real (Decimal.Number.toDouble negative ⟨digits, exponent - places⟩), left)

theorem readNumber_eq (negative : Bool) (cs : List Char) :
    readNumber negative cs =
      afterDigits negative (wholePart cs).1 (wholePart cs).2.1 (wholePart cs).2.2 := rfl

theorem wholePart_append {whole rest : List Char} (hwhole : Digits whole)
    (hfirst : whole = ['0'] ∨ whole.head? ≠ some '0') (hrest : Stops rest) :
    wholePart (whole ++ rest) = (Decimal.extend 0 whole, whole.length, rest) := by
  rcases hfirst with rfl | hfirst
  · rfl
  · have hspan := Decimal.spanDigits_append hwhole.2 hrest 0 0
    rw [Nat.zero_add] at hspan
    rw [← hspan]
    unfold wholePart
    split
    · rename_i more hmore
      obtain ⟨c, cs, rfl⟩ := List.exists_cons_of_ne_nil hwhole.1
      exact absurd (congrArg some (List.cons.inj hmore).1) hfirst
    · rfl

/-- A number is read back up to the comma or brace after it. -/
theorem readNumber_unsigned (negative : Bool) {cs : List Char} (h : Unsigned maxDigits cs) :
    ∃ v, ∀ d rest, isDelimiter d = true →
      readNumber negative (cs ++ d :: rest) = .ok (v, d :: rest) := by
  cases h with
  | @parts whole fraction power hwhole hfirst hlimit hfraction hpower =>
      have hcount : whole.length ≠ 0 := fun h => hwhole.1 (List.length_eq_zero_iff.mp h)
      let coefficient := Decimal.extend 0 whole
      obtain ⟨n, hnone, hexponent⟩ := exponent?_power hpower
      obtain ⟨part, hpoint, hpart⟩ := fraction?_fraction hfraction hpower coefficient
      refine ⟨if part.isNone ∧ n.isNone then
          .whole (if negative then -(coefficient : Int) else coefficient)
        else .real (Decimal.Number.toDouble negative
          ⟨(part.map Prod.fst).getD coefficient, n.getD 0 - (part.map Prod.snd).getD 0⟩),
        fun d rest hd => ?_⟩
      obtain ⟨hstops, hread⟩ := hpart d rest hd
      rw [List.append_assoc, List.append_assoc, readNumber_eq,
        wholePart_append hwhole hfirst hstops]
      simp only [afterDigits, if_neg hcount, if_neg (Nat.not_lt.mpr hlimit)]
      rw [hread]
      cases part with
      | none =>
          obtain rfl := hpoint rfl
          cases n with
          | none =>
              obtain rfl := hnone rfl
              simp [coefficient, exponent?_of_delimiter hd]
          | some n => simp [coefficient, hexponent d rest hd]
      | some p =>
          cases n with
          | none =>
              obtain rfl := hnone rfl
              simp [coefficient, exponent?_of_delimiter hd]
          | some n => simp [coefficient, hexponent d rest hd]

/-- The text without some characters at its start, none of which opens an object. -/
def Passes (cs rest : List Char) : Prop :=
  ∃ used, cs = used ++ rest ∧ '{' ∉ used

theorem Passes.refl (cs : List Char) : Passes cs cs :=
  ⟨[], rfl, List.not_mem_nil⟩

theorem Passes.trans {a b c : List Char} (h : Passes a b) (h' : Passes b c) : Passes a c := by
  obtain ⟨used, rfl, hused⟩ := h
  obtain ⟨more, rfl, hmore⟩ := h'
  exact ⟨used ++ more, (List.append_assoc _ _ _).symm, by simp [hused, hmore]⟩

theorem Passes.cons {c : Char} (h : c ≠ '{') {cs rest : List Char} (hrest : Passes cs rest) :
    Passes (c :: cs) rest :=
  Passes.trans ⟨[c], rfl, by simpa using Ne.symm h⟩ hrest

theorem passes_span (cs : List Char) (value count : Nat) :
    Passes cs (Decimal.spanDigits cs value count).2.2 := by
  rw [Decimal.spanDigits_eq]
  refine ⟨cs.takeWhile isDigit, (List.takeWhile_append_dropWhile).symm, fun hmem => ?_⟩
  exact absurd (List.all_eq_true.mp List.all_takeWhile _ hmem) (by decide)

theorem passes_fraction {n : Nat} {cs : List Char} {p : Nat × Nat × List Char}
    (h : fraction? n cs = some p) : Passes cs p.2.2 := by
  unfold fraction? at h
  split at h
  · rename_i rest
    dsimp only at h
    split at h
    · cases h
    · cases h
      exact (passes_span rest n 0).cons (by decide)
  · cases h

theorem passes_exponent {cs : List Char} {p : Int × List Char} (h : exponent? cs = some p) :
    Passes cs p.2 := by
  unfold exponent? at h
  split at h
  · rename_i c rest
    split at h
    · rename_i hmark
      have hc : c ≠ '{' := by rcases hmark with rfl | rfl <;> decide
      refine .cons hc ?_
      split at h
      rename_i negative digits hsign
      have hdigits : Passes rest digits := by
        split at hsign <;> cases hsign
        · exact (Passes.refl _).cons (by decide)
        · exact (Passes.refl _).cons (by decide)
        · exact .refl rest
      dsimp only at h
      split at h
      · cases h
      · cases h
        exact hdigits.trans (passes_span digits 0 0)
    · cases h
  · cases h

theorem passes_wholePart (cs : List Char) : Passes cs (wholePart cs).2.2 := by
  unfold wholePart
  split
  · exact (Passes.refl _).cons (by decide)
  · exact passes_span cs 0 0

theorem wholePart_count (cs : List Char) :
    (wholePart cs).2.1 ≤ (cs.takeWhile isDigit).length := by
  unfold wholePart
  split
  · rw [List.takeWhile_cons_of_pos (by decide), List.length_cons]
    exact Nat.succ_le_succ (Nat.zero_le _)
  · rw [Decimal.spanDigits_eq]
    exact Nat.le_of_eq (Nat.zero_add _)

theorem readNumber_stops (negative : Bool) {cs : List Char}
    (h : (cs.takeWhile isDigit).length ≤ maxDigits) :
    readNumber negative cs = .error .malformed ∨
      ∃ v rest, readNumber negative cs = .ok (v, rest) ∧ Passes cs rest := by
  rcases hwhole : wholePart cs with ⟨coefficient, count, rest⟩
  have hcount : count ≤ (cs.takeWhile isDigit).length := by
    have hle := wholePart_count cs
    rwa [hwhole] at hle
  have hrest : Passes cs rest := by
    have hpasses := passes_wholePart cs
    rwa [hwhole] at hpasses
  rw [readNumber_eq, hwhole]
  simp only [afterDigits]
  split
  · exact .inl rfl
  · refine .inr ?_
    rw [if_neg (show ¬maxDigits < count by omega)]
    have hpart : Passes rest (((fraction? coefficient rest).map fun p => p.2.2).getD rest) := by
      cases hpart : fraction? coefficient rest with
      | none => exact .refl rest
      | some p => exact passes_fraction hpart
    split
    · exact ⟨_, _, rfl, hrest⟩
    · refine ⟨_, _, rfl, hrest.trans (hpart.trans ?_)⟩
      cases hpower : exponent? (((fraction? coefficient rest).map fun p => p.2.2).getD rest) with
      | none => exact .refl _
      | some p => exact passes_exponent hpower

theorem word?_eq_some {w cs rest : List Char} (h : word? w cs = some rest) : cs = w ++ rest := by
  fun_induction word? w cs with
  | case1 cs => exact Option.some.inj h
  | case2 => cases h
  | case3 c w cs ih => rw [ih h, List.cons_append]
  | case4 => cases h

theorem word?_of_ne {c d : Char} (h : c ≠ d) (w cs : List Char) :
    word? (c :: w) (d :: cs) = none := by
  rw [word?, if_neg h]

def dropSign : List Char → List Char
  | '-' :: rest => rest
  | cs => cs

theorem readScalar_stops {cs : List Char}
    (h : ((dropSign cs).takeWhile isDigit).length ≤ maxDigits) :
    readScalar cs = .error .malformed ∨
      ∃ v rest, readScalar cs = .ok (v, rest) ∧ Passes cs rest := by
  have hword {w rest : List Char} (h : word? w cs = some rest) (hw : '{' ∉ w) : Passes cs rest :=
    ⟨w, word?_eq_some h, hw⟩
  unfold readScalar
  split
  · rename_i rest hnull
    exact .inr ⟨_, rest, rfl, hword hnull (by decide)⟩
  split
  · rename_i rest htrue
    exact .inr ⟨_, rest, rfl, hword htrue (by decide)⟩
  split
  · rename_i rest hfalse
    exact .inr ⟨_, rest, rfl, hword hfalse (by decide)⟩
  split
  · rename_i rest hnan
    exact .inr ⟨_, rest, rfl, hword hnan (by decide)⟩
  split
  · rename_i rest hinfinity
    exact .inr ⟨_, rest, rfl, hword hinfinity (by decide)⟩
  split
  · rename_i rest hinfinity
    exact .inr ⟨_, rest, rfl, hword hinfinity (by decide)⟩
  split
  · rename_i rest _ _ _ _ _ _
    rcases readNumber_stops true h with hfails | ⟨v, left, hread, hpasses⟩
    · exact .inl hfails
    · exact .inr ⟨v, left, hread, hpasses.cons (by decide)⟩
  · rename_i hsign
    have hsame : dropSign cs = cs := by
      unfold dropSign
      split
      · exact absurd rfl (hsign _)
      · rfl
    rw [hsame] at h
    exact readNumber_stops false h

def words : List String :=
  ["null", "true", "false", "NaN", "Infinity", "-Infinity"]

def readSigned (cs : List Char) : Except Flaw (Json × List Char) :=
  match cs with
  | '-' :: rest => readNumber true rest
  | _ => readNumber false cs

theorem readScalar_of_no_word {cs : List Char} (h : ∀ w ∈ words, word? w.toList cs = none) :
    readScalar cs = readSigned cs := by
  simp only [words, List.forall_mem_cons] at h
  obtain ⟨hnull, htrue, hfalse, hnan, hinfinity, hminus, -⟩ := h
  simp only [readScalar, hnull, htrue, hfalse, hnan, hinfinity, hminus]
  rfl

theorem readScalar_digit {c : Char} (hc : isDigit c = true) (cs : List Char) :
    readScalar (c :: cs) = readNumber false (c :: cs) := by
  have hne {d : Char} (hd : isDigit d = false) : d ≠ c := by
    rintro rfl
    exact absurd (hd.symm.trans hc) nofun
  have hwords : ∀ w ∈ words, word? w.toList (c :: cs) = none := by
    simp only [words, List.forall_mem_cons]
    exact ⟨word?_of_ne (hne (by decide)) _ cs, word?_of_ne (hne (by decide)) _ cs,
      word?_of_ne (hne (by decide)) _ cs, word?_of_ne (hne (by decide)) _ cs,
      word?_of_ne (hne (by decide)) _ cs, word?_of_ne (hne (by decide)) _ cs, nofun⟩
  rw [readScalar_of_no_word hwords, readSigned]
  exact fun rest hsign => hne (by decide) (List.cons.inj hsign).1.symm

theorem readScalar_minus {c : Char} (hc : isDigit c = true) (cs : List Char) :
    readScalar ('-' :: c :: cs) = readNumber true (c :: cs) := by
  have hne : 'I' ≠ c := by
    rintro rfl
    exact absurd hc (by decide)
  have hwords : ∀ w ∈ words, word? w.toList ('-' :: c :: cs) = none := by
    simp only [words, List.forall_mem_cons]
    exact ⟨rfl, rfl, rfl, rfl, rfl, word?_of_ne hne _ cs, nofun⟩
  rw [readScalar_of_no_word hwords, readSigned]

/-- A printed character that is no space and belongs to no string, list or object. -/
def isPlain (c : Char) : Bool :=
  isPrinted c && !([' ', '"', ',', ':', '[', ']', '{', '}'].contains c)

theorem isPlain_of_isDigit {c : Char} (h : isDigit c = true) : isPlain c = true := by
  have hbounds : 48 ≤ c.toNat ∧ c.toNat ≤ 57 := by
    simpa [isDigit, Char.le_def, UInt32.le_iff_toNat_le] using h
  have hall : ∀ k : Fin 58, 48 ≤ k.val → isPlain (Char.ofNat k) = true := by decide
  have hplain := hall ⟨c.toNat, by omega⟩ hbounds.1
  rwa [Char.ofNat_toNat] at hplain

/-- A scalar is read back up to the comma or brace after it, and none of its characters may follow a
value. -/
structure IsScalar (w : List Char) : Prop where
  ne_nil : w ≠ []
  plain : ∀ c ∈ w, isPlain c = true
  short : ((dropSign w).takeWhile isDigit).length ≤ maxDigits
  read : ∃ v, ∀ d rest, isDelimiter d = true →
    readScalar (w ++ d :: rest) = .ok (v, d :: rest)

theorem plain_unsigned {limit : Nat} {cs : List Char} (h : Unsigned limit cs) :
    ∀ c ∈ cs, isPlain c = true := by
  obtain ⟨hwhole, -, -, hfraction, hpower⟩ := h
  have hdigits {ds : List Char} (hds : Digits ds) : ∀ c ∈ ds, isPlain c = true :=
    fun c hc => isPlain_of_isDigit (hds.2 c hc)
  intro c hc
  rcases List.mem_append.mp hc with hc | hc
  · rcases List.mem_append.mp hc with hc | hc
    · exact hdigits hwhole c hc
    · cases hfraction with
      | none => cases hc
      | places hds =>
          rcases List.mem_cons.mp hc with rfl | hc
          · decide
          · exact hdigits hds c hc
  · cases hpower with
    | none => cases hc
    | ten hsign hds =>
        rcases List.mem_cons.mp hc with rfl | hc
        · decide
        · rcases List.mem_cons.mp hc with rfl | hc
          · rcases hsign with rfl | rfl <;> decide
          · exact hdigits hds c hc

theorem takeWhile_unsigned {limit : Nat} {cs : List Char} (h : Unsigned limit cs) :
    (cs.takeWhile isDigit).length ≤ limit := by
  cases h with
  | @parts whole fraction power hwhole _ hlimit hfraction hpower =>
      have hnone : (fraction ++ power).takeWhile isDigit = [] := by
        cases hfraction with
        | none =>
            cases hpower with
            | none => rfl
            | ten => exact List.takeWhile_cons_of_neg (by decide)
        | places => exact List.takeWhile_cons_of_neg (by decide)
      rw [List.append_assoc, List.takeWhile_append_of_pos hwhole.2, hnone, List.append_nil]
      exact hlimit

theorem exists_cons_unsigned {limit : Nat} {cs : List Char} (h : Unsigned limit cs) :
    ∃ c rest, cs = c :: rest ∧ isDigit c = true := by
  obtain ⟨hwhole, -⟩ := h
  obtain ⟨c, rest, rfl⟩ := List.exists_cons_of_ne_nil hwhole.1
  exact ⟨c, _, rfl, hwhole.2 c List.mem_cons_self⟩

theorem isScalar_unsigned {cs : List Char} (h : Unsigned maxDigits cs) : IsScalar cs := by
  obtain ⟨v, hread⟩ := readNumber_unsigned false h
  have hplain := plain_unsigned h
  have hshort := takeWhile_unsigned h
  obtain ⟨c, rest, rfl, hc⟩ := exists_cons_unsigned h
  have hsign : dropSign (c :: rest) = c :: rest := by
    rw [dropSign]
    rintro _ ⟨⟩
    exact absurd hc (by decide)
  refine ⟨List.cons_ne_nil c rest, hplain, by rwa [hsign], v, fun d left hd => ?_⟩
  rw [List.cons_append, readScalar_digit hc]
  exact hread d left hd

theorem isScalar_minus {cs : List Char} (h : Unsigned maxDigits cs) : IsScalar ('-' :: cs) := by
  obtain ⟨v, hread⟩ := readNumber_unsigned true h
  have hplain := plain_unsigned h
  have hshort := takeWhile_unsigned h
  obtain ⟨c, rest, rfl, hc⟩ := exists_cons_unsigned h
  refine ⟨List.cons_ne_nil _ _, List.forall_mem_cons.mpr ⟨by decide, hplain⟩, hshort, v,
    fun d left hd => ?_⟩
  rw [List.cons_append, List.cons_append, readScalar_minus hc]
  exact hread d left hd

theorem isScalar_null : IsScalar (writeChars .null) where
  ne_nil := by decide
  plain := List.all_eq_true.mp (by decide)
  short := by decide
  read := ⟨.null, fun _ _ _ => rfl⟩

theorem isScalar_whole {n : Int} (h : (Numeral.digits n.natAbs).length ≤ maxDigits) :
    IsScalar (writeChars (.whole n)) := by
  cases n with
  | ofNat k =>
      rw [writeChars, Numeral.integer]
      exact isScalar_unsigned (Decimal.unsigned_natural h)
  | negSucc k =>
      rw [writeChars, Numeral.integer, String.toList_append]
      exact isScalar_minus (Decimal.unsigned_natural h)

theorem isScalar_real (x : Decimal.Binary) : IsScalar (writeChars (.real x)) := by
  rw [writeChars]
  cases x with
  | nan => exact ⟨by decide, List.all_eq_true.mp (by decide), by decide, _, fun _ _ _ => rfl⟩
  | infinite negative =>
      cases negative with
      | false => exact ⟨by decide, List.all_eq_true.mp (by decide), by decide, _, fun _ _ _ => rfl⟩
      | true => exact ⟨by decide, List.all_eq_true.mp (by decide), by decide, _, fun _ _ _ => rfl⟩
  | finite negative size =>
      have htext : Unsigned maxDigits
          ((Decimal.shortest Decimal.double size).text Decimal.plainLayout).toList :=
        (Decimal.unsigned_shortest Decimal.double size).mono (by decide)
      cases negative with
      | false => simpa [writeReal, Decimal.Binary.text] using isScalar_unsigned htext
      | true => simpa [writeReal, Decimal.Binary.text] using isScalar_minus htext

end Json

end RawSeries
