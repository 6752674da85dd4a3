import RawSeries.Json.Reader
import RawSeries.Json.Writer

namespace RawSeries

theorem Bytes.hexDigit?_hexChar {n : Nat} (h : n < 16) : hexDigit? (hexChar n) = some n := by
  have hall : ∀ k : Fin 16, hexDigit? (hexChar k) = some k.val := by decide
  exact hall ⟨n, h⟩

theorem CodePoint.toNat_range (c : Char) :
    c.toNat < 55296 ∨ 57344 ≤ c.toNat ∧ c.toNat < 1114112 := by
  have hvalid := c.valid
  rw [UInt32.isValidChar, Nat.isValidChar] at hvalid
  have htoNat : c.toNat = c.val.toNat := rfl
  omega

theorem CodePoint.ofNat_toNat (c : Char) : ofNat c.toNat = .char c := by
  have hrange := toNat_range c
  rw [ofNat, dif_neg (by omega), Char.ofNat_toNat]

theorem WideText.ofPoints_chars (cs : List Char) :
    ofPoints (cs.map .char) = .plain (String.ofList cs) := by
  have hwhole : ¬(cs.map CodePoint.char).any CodePoint.isHalf = true := by
    simp [CodePoint.isHalf]
  have hchars : (cs.map CodePoint.char).filterMap CodePoint.char? = cs := by
    rw [List.filterMap_map]
    exact List.filterMap_some
  rw [ofPoints, dif_neg hwhole, hchars]

theorem Half.join?_pair {n : Nat} (h : 65536 ≤ n) (hmax : n < 1114112) :
    join? (55296 + (n - 65536) / 1024) (56320 + (n - 65536) % 1024) = some (Char.ofNat n) := by
  have hcode : 65536 + (55296 + (n - 65536) / 1024 - 55296) * 1024 +
      (56320 + (n - 65536) % 1024 - 56320) = n := by omega
  rw [join?, if_pos (by omega), hcode]

namespace Json

def unitDigits (n : Nat) : List Char :=
  [Bytes.hexChar (n / 4096 % 16), Bytes.hexChar (n / 256 % 16), Bytes.hexChar (n / 16 % 16),
    Bytes.hexChar (n % 16)]

theorem unitEscape_append (n : Nat) (rest : List Char) :
    unitEscape n ++ rest = '\\' :: 'u' :: (unitDigits n ++ rest) := rfl

theorem unit?_unitDigits {n : Nat} (h : n < 65536) (rest : List Char) :
    unit? (unitDigits n ++ rest) = some (n, rest) := by
  have hdigit (k : Nat) : Bytes.hexDigit? (Bytes.hexChar (k % 16)) = some (k % 16) :=
    Bytes.hexDigit?_hexChar (Nat.mod_lt k (by decide))
  have hvalue : n / 4096 % 16 * 4096 + n / 256 % 16 * 256 + n / 16 % 16 * 16 + n % 16 = n := by
    omega
  simp only [unitDigits, List.cons_append, List.nil_append, unit?, hdigit]
  exact congrArg some (Prod.ext hvalue rfl)

theorem unicode?_char {c : Char} (h : c.toNat < 65536) (rest : List Char) :
    unicode? (unitDigits c.toNat ++ rest) = some (.char c, rest) := by
  have hrange := CodePoint.toNat_range c
  simp only [unicode?, unit?_unitDigits h, Option.bind_eq_bind, Option.bind_some,
    if_neg (show ¬(55296 ≤ c.toNat ∧ c.toNat < 56320) by omega), CodePoint.ofNat_toNat]
  rfl

theorem unicode?_of_join {high low : Nat} (h : 55296 ≤ high ∧ high < 56320) (hlow : low < 65536)
    {c : Char} (hjoin : Half.join? high low = some c) (rest : List Char) :
    unicode? (unitDigits high ++ (unitEscape low ++ rest)) = some (.char c, rest) := by
  simp only [unicode?, unit?_unitDigits (show high < 65536 by omega), Option.bind_eq_bind,
    Option.bind_some, if_pos h, unitEscape_append, unit?_unitDigits hlow, hjoin]
  rfl

theorem unicode?_pair {c : Char} (h : 65536 ≤ c.toNat) (rest : List Char) :
    unicode? (unitDigits (55296 + (c.toNat - 65536) / 1024) ++
      (unitEscape (56320 + (c.toNat - 65536) % 1024) ++ rest)) = some (.char c, rest) := by
  have hrange := CodePoint.toNat_range c
  have hjoin := Half.join?_pair h (by omega)
  rw [Char.ofNat_toNat] at hjoin
  exact unicode?_of_join (by omega) (by omega) hjoin rest

def before (x : CodePoint) (r : List CodePoint × List Char) : List CodePoint × List Char :=
  (x :: r.1, r.2)

theorem readText_unicode {more after : List Char} {x : CodePoint}
    (h : unicode? more = some (x, after)) (fuel : Nat) :
    readText (fuel + 1) ('\\' :: 'u' :: more) = (readText fuel after).map (before x) := by
  simp only [readText, h]
  rfl

theorem readText_short {e x : Char} (hu : e ≠ 'u') (h : shortEscape? e = some x) (fuel : Nat)
    (rest : List Char) :
    readText (fuel + 1) ('\\' :: e :: rest) = (readText fuel rest).map (before (.char x)) := by
  rw [readText]
  split
  · rename_i hquote
    cases hquote
  · simp only [h]
    rfl
  · exact hu

theorem readText_unitEscapes (c : Char) (rest : List Char) (fuel : Nat) :
    readText (fuel + 1) (unitEscapes c ++ rest) = (readText fuel rest).map (before (.char c)) := by
  simp only [unitEscapes]
  split
  · rename_i hnarrow
    exact readText_unicode (unicode?_char hnarrow rest) fuel
  · rename_i hwide
    rw [List.append_assoc]
    exact readText_unicode (unicode?_pair (Nat.le_of_not_lt hwide) rest) fuel

/-- A visible character of ASCII, or a space. -/
def isPrinted (c : Char) : Bool :=
  32 ≤ c.toNat && c.toNat < 127

theorem escapeChar_cases (c : Char) :
    (escapeChar c = [c] ∧ c ≠ '"' ∧ c ≠ '\\' ∧ isPrinted c = true) ∨
      (∃ e, escapeChar c = ['\\', e] ∧ e ≠ 'u' ∧ shortEscape? e = some c ∧
        isPrinted e = true) ∨
      escapeChar c = unitEscapes c := by
  have hcontrol {n : Nat} (h : c.toNat = n) : c = Char.ofNat n := by rw [← h, Char.ofNat_toNat]
  simp only [escapeChar]
  by_cases hquote : c = '"'
  · exact .inr (.inl ⟨'"', by simp [hquote], by decide, by rw [hquote]; decide, by decide⟩)
  by_cases hslash : c = '\\'
  · exact .inr (.inl ⟨'\\', by simp [hslash], by decide, by rw [hslash]; decide, by decide⟩)
  by_cases hvisible : 32 ≤ c.toNat ∧ c.toNat < 127
  · exact .inl ⟨by simp [hquote, hslash, hvisible], hquote, hslash, by simp [isPrinted, hvisible]⟩
  simp only [if_neg hquote, if_neg hslash, if_neg hvisible]
  refine .inr ?_
  split
  · rename_i h
    exact .inl ⟨'b', rfl, by decide, by rw [hcontrol h]; decide, by decide⟩
  split
  · rename_i h
    exact .inl ⟨'t', rfl, by decide, by rw [hcontrol h]; decide, by decide⟩
  split
  · rename_i h
    exact .inl ⟨'n', rfl, by decide, by rw [hcontrol h]; decide, by decide⟩
  split
  · rename_i h
    exact .inl ⟨'f', rfl, by decide, by rw [hcontrol h]; decide, by decide⟩
  split
  · rename_i h
    exact .inl ⟨'r', rfl, by decide, by rw [hcontrol h]; decide, by decide⟩
  · exact .inr rfl

theorem readText_escapeChar (c : Char) (rest : List Char) (fuel : Nat) :
    readText (fuel + 1) (escapeChar c ++ rest) = (readText fuel rest).map (before (.char c)) := by
  rcases escapeChar_cases c with ⟨hself, hquote, hslash, hprinted⟩ | ⟨e, hshort, hu, hread, -⟩ |
    hunits
  · have hvisible : 32 ≤ c.toNat ∧ c.toNat < 127 := by simpa [isPrinted] using hprinted
    simp only [hself, List.cons_append, List.nil_append, readText, if_neg hquote, if_neg hslash,
      if_neg (show ¬c.toNat < 32 by omega)]
    rfl
  · rw [hshort]
    exact readText_short hu hread fuel rest
  · rw [hunits]
    exact readText_unitEscapes c rest fuel

theorem readText_chars {cs : List Char} {fuel : Nat} (hfuel : cs.length < fuel)
    (rest : List Char) :
    readText fuel (cs.flatMap escapeChar ++ '"' :: rest) = .ok (cs.map .char, rest) := by
  induction cs generalizing fuel with
  | nil =>
      obtain ⟨fuel, rfl⟩ := Nat.exists_eq_succ_of_ne_zero (Nat.ne_of_gt hfuel)
      simp [readText]
  | cons c cs ih =>
      obtain ⟨fuel, rfl⟩ := Nat.exists_eq_succ_of_ne_zero (Nat.ne_zero_of_lt hfuel)
      rw [List.flatMap_cons, List.append_assoc, readText_escapeChar,
        ih (Nat.lt_of_succ_lt_succ hfuel)]
      rfl

/-- What comes after the first quote that no backslash escapes. -/
def closing : List Char → Option (List Char)
  | [] => none
  | '\\' :: rest =>
      match rest with
      | [] => none
      | _ :: rest => closing rest
  | c :: rest => if c = '"' then some rest else closing rest

theorem closing_cons {c : Char} (hslash : c ≠ '\\') (hquote : c ≠ '"') (rest : List Char) :
    closing (c :: rest) = closing rest := by
  rw [closing, if_neg hquote]
  exact hslash

theorem closing_pair (c : Char) (rest : List Char) :
    closing ('\\' :: c :: rest) = closing rest := by
  simp [closing]

theorem closing_of_unit? {cs rest : List Char} {n : Nat} (h : unit? cs = some (n, rest)) :
    closing cs = closing rest := by
  have hslash : Bytes.hexDigit? '\\' = none := by decide
  have hquote : Bytes.hexDigit? '"' = none := by decide
  have hdigit {c : Char} {n : Nat} (h : Bytes.hexDigit? c = some n) : c ≠ '\\' ∧ c ≠ '"' := by
    refine ⟨?_, ?_⟩
    · rintro rfl
      rw [hslash] at h
      cases h
    · rintro rfl
      rw [hquote] at h
      cases h
  unfold unit? at h
  split at h
  · rename_i a b c d more
    simp only [Option.bind_eq_bind, Option.bind_eq_some_iff] at h
    obtain ⟨x, ha, y, hb, z, hc, w, hd, hrest⟩ := h
    cases hrest
    rw [closing_cons (hdigit ha).1 (hdigit ha).2, closing_cons (hdigit hb).1 (hdigit hb).2,
      closing_cons (hdigit hc).1 (hdigit hc).2, closing_cons (hdigit hd).1 (hdigit hd).2]
  · cases h

theorem closing_of_unicode? {cs rest : List Char} {x : CodePoint}
    (h : unicode? cs = some (x, rest)) : closing cs = closing rest := by
  simp only [unicode?, Option.bind_eq_bind, Option.bind_eq_some_iff] at h
  obtain ⟨⟨high, after⟩, hhigh, h⟩ := h
  rw [closing_of_unit? hhigh]
  dsimp only at h
  split at h
  · split at h
    · obtain ⟨⟨low, left⟩, hlow, h⟩ := Option.bind_eq_some_iff.mp h
      dsimp only at h
      split at h
      · cases h
        rw [closing_pair, closing_of_unit? hlow]
      · cases h
        rfl
    · cases h
      rfl
  · cases h
    rfl

/-- Reading a string stops at the first quote that no backslash escapes, or it fails. -/
theorem readText_stops (fuel : Nat) (cs : List Char) :
    readText fuel cs = .error .malformed ∨
      ∃ xs rest, readText fuel cs = .ok (xs, rest) ∧ closing cs = some rest := by
  have hgoes {fuel : Nat} {cs after : List Char} {x : CodePoint}
      (h : readText fuel after = .error .malformed ∨
        ∃ xs rest, readText fuel after = .ok (xs, rest) ∧ closing after = some rest)
      (hsame : closing cs = closing after) :
      (readText fuel after).map (before x) = .error .malformed ∨
        ∃ xs rest, (readText fuel after).map (before x) = .ok (xs, rest) ∧
          closing cs = some rest := by
    rcases h with hfails | ⟨xs, rest, hread, hclosing⟩
    · rw [hfails]
      exact .inl rfl
    · rw [hread, hsame]
      exact .inr ⟨x :: xs, rest, rfl, hclosing⟩
  fun_induction readText fuel cs with
  | case1 cs => exact .inl rfl
  | case2 fuel => exact .inl rfl
  | case3 fuel rest => exact .inr ⟨[], rest, rfl, by simp [closing]⟩
  | case4 fuel more x after hunicode _ ih =>
      exact hgoes ih (by rw [closing_pair, closing_of_unicode? hunicode])
  | case5 fuel more hunicode => exact .inl rfl
  | case6 fuel e more hu x hshort _ ih => exact hgoes ih (closing_pair e more)
  | case7 fuel e more hu hshort => exact .inl rfl
  | case8 fuel => exact .inl rfl
  | case9 fuel c rest hquote hslash hcontrol => exact .inl rfl
  | case10 fuel c rest hquote hslash hcontrol ih => exact hgoes ih (closing_cons hslash hquote rest)

/-- Characters in which every quote and every backslash comes after a backslash. -/
inductive IsEscaped : List Char → Prop where
  | nil : IsEscaped []
  | plain {c : Char} {cs : List Char} (hslash : c ≠ '\\') (hquote : c ≠ '"')
      (rest : IsEscaped cs) : IsEscaped (c :: cs)
  | pair (c : Char) {cs : List Char} (rest : IsEscaped cs) : IsEscaped ('\\' :: c :: cs)

theorem IsEscaped.append {a b : List Char} (ha : IsEscaped a) (hb : IsEscaped b) :
    IsEscaped (a ++ b) := by
  induction ha with
  | nil => exact hb
  | plain hslash hquote _ ih => exact .plain hslash hquote ih
  | pair c _ ih => exact .pair c ih

theorem isEscaped_unitEscape (n : Nat) : IsEscaped (unitEscape n) := by
  have hdigit (k : Nat) :
      Bytes.hexChar (k % 16) ≠ '\\' ∧ Bytes.hexChar (k % 16) ≠ '"' := by
    have hall : ∀ k : Fin 16, Bytes.hexChar k ≠ '\\' ∧ Bytes.hexChar k ≠ '"' := by decide
    exact hall ⟨k % 16, Nat.mod_lt k (by decide)⟩
  exact .pair 'u' (.plain (hdigit _).1 (hdigit _).2 (.plain (hdigit _).1 (hdigit _).2
    (.plain (hdigit _).1 (hdigit _).2 (.plain (hdigit _).1 (hdigit _).2 .nil))))

theorem isEscaped_escapeChar (c : Char) : IsEscaped (escapeChar c) := by
  rcases escapeChar_cases c with ⟨hself, hquote, hslash, -⟩ | ⟨e, hshort, -⟩ | hunits
  · rw [hself]
    exact .plain hslash hquote .nil
  · rw [hshort]
    exact .pair e .nil
  · rw [hunits]
    simp only [unitEscapes]
    split
    · exact isEscaped_unitEscape _
    · exact (isEscaped_unitEscape _).append (isEscaped_unitEscape _)

theorem isEscaped_flatMap (cs : List Char) : IsEscaped (cs.flatMap escapeChar) := by
  induction cs with
  | nil => exact .nil
  | cons c cs ih => exact (isEscaped_escapeChar c).append ih

theorem IsEscaped.closing_append {cs : List Char} (h : IsEscaped cs) (rest : List Char) :
    closing (cs ++ rest) = closing rest := by
  induction h with
  | nil => rfl
  | plain hslash hquote _ ih => rw [List.cons_append, closing_cons hslash hquote, ih]
  | pair c _ ih => rw [List.cons_append, List.cons_append, closing_pair, ih]

theorem IsEscaped.cut {cs p : List Char} (h : IsEscaped cs) (hp : p <+: cs) :
    IsEscaped p ∨ ∃ head, p = head ++ ['\\'] ∧ IsEscaped head := by
  induction h generalizing p with
  | nil =>
      rw [List.prefix_nil.mp hp]
      exact .inl .nil
  | @plain c cs hslash hquote _ ih =>
      rcases List.prefix_cons_iff.mp hp with rfl | ⟨t, rfl, ht⟩
      · exact .inl .nil
      · rcases ih ht with hwhole | ⟨head, rfl, hhead⟩
        · exact .inl (.plain hslash hquote hwhole)
        · exact .inr ⟨c :: head, rfl, .plain hslash hquote hhead⟩
  | @pair c cs _ ih =>
      rcases List.prefix_cons_iff.mp hp with rfl | ⟨t, rfl, ht⟩
      · exact .inl .nil
      rcases List.prefix_cons_iff.mp ht with rfl | ⟨tail, rfl, htail⟩
      · exact .inr ⟨[], rfl, .nil⟩
      · rcases ih htail with hwhole | ⟨head, rfl, hhead⟩
        · exact .inl (.pair c hwhole)
        · exact .inr ⟨'\\' :: c :: head, rfl, .pair c hhead⟩

/-- A string that is cut short is closed by what comes after it, perhaps with its first character
escaped, or it is not read at all. -/
theorem readText_torn {cs p : List Char} (hp : p <+: cs.flatMap escapeChar) (fuel : Nat)
    (more : List Char) :
    readText fuel (p ++ more) = .error .malformed ∨
      ∃ xs rest, readText fuel (p ++ more) = .ok (xs, rest) ∧
        (closing more = some rest ∨ closing ('\\' :: more) = some rest) := by
  rcases readText_stops fuel (p ++ more) with hfails | ⟨xs, rest, hread, hclosing⟩
  · exact .inl hfails
  · refine .inr ⟨xs, rest, hread, ?_⟩
    rcases (isEscaped_flatMap cs).cut hp with hwhole | ⟨head, rfl, hhead⟩
    · rw [hwhole.closing_append] at hclosing
      exact .inl hclosing
    · rw [List.append_assoc, hhead.closing_append] at hclosing
      exact .inr hclosing

end Json

end RawSeries
