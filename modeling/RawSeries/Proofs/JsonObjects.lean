import RawSeries.Proofs.JsonNumbers
import RawSeries.Proofs.JsonTexts

namespace RawSeries.Json

/-- No colon, comma or closing brace comes next. -/
def Halts (cs : List Char) : Prop :=
  ∀ c rest, skipSpace cs = c :: rest → c ≠ ':' ∧ isDelimiter c = false

/-- A reading fails, or an object cannot go on after it. -/
def Fails {α : Type} (r : Except Flaw (α × List Char)) : Prop :=
  r = .error .malformed ∨ ∃ x rest, r = .ok (x, rest) ∧ Halts rest

/-- What may come after text that is cut short: nothing, or the text of an object. -/
inductive Junk : List Char → Prop where
  | none : Junk []
  | object {c : Char} (hc : isPlain c = true) {rest : List Char}
      (h : ∀ fuel depth, Fails (readValue fuel (depth + 1) ('{' :: '"' :: c :: rest))) :
      Junk ('{' :: '"' :: c :: rest)

theorem skipSpace_cons {c : Char} (h : isSpace c = false) (rest : List Char) :
    skipSpace (c :: rest) = c :: rest :=
  List.dropWhile_cons_of_neg (by simp [h])

theorem Halts.cons {c : Char} (hspace : isSpace c = false) (hcolon : c ≠ ':')
    (hdelimiter : isDelimiter c = false) (rest : List Char) : Halts (c :: rest) := by
  intro d left h
  rw [skipSpace_cons hspace] at h
  obtain ⟨rfl, -⟩ := List.cons.inj h
  exact ⟨hcolon, hdelimiter⟩

theorem not_space_of_plain {c : Char} (h : isPlain c = true) :
    isSpace c = false ∧ c ≠ ':' ∧ isDelimiter c = false := by
  refine ⟨?_, ?_, ?_⟩
  · rw [← Bool.not_eq_true]
    intro hspace
    simp only [isSpace, Bool.or_eq_true, beq_iff_eq] at hspace
    rcases hspace with ((rfl | rfl) | rfl) | rfl <;> exact absurd h (by decide)
  · rintro rfl
    exact absurd h (by decide)
  · rw [← Bool.not_eq_true]
    intro hdelimiter
    simp only [isDelimiter, Bool.or_eq_true, beq_iff_eq] at hdelimiter
    rcases hdelimiter with rfl | rfl <;> exact absurd h (by decide)

theorem halts_of_plain {c : Char} (h : isPlain c = true) (rest : List Char) :
    Halts (c :: rest) :=
  .cons (not_space_of_plain h).1 (not_space_of_plain h).2.1 (not_space_of_plain h).2.2 rest

theorem Junk.skipSpace {more : List Char} (h : Junk more) : skipSpace more = more := by
  cases h with
  | none => rfl
  | object => exact skipSpace_cons (by decide) _

theorem Junk.halts {more : List Char} (h : Junk more) : Halts more := by
  cases h with
  | none => nofun
  | object => exact .cons (by decide) (by decide) (by decide) _

theorem Junk.halts_of_closing {more rest : List Char} (h : Junk more)
    (hclosing : closing more = some rest ∨ closing ('\\' :: more) = some rest) : Halts rest := by
  cases h with
  | none => rcases hclosing with h | h <;> cases h
  | @object c hc left =>
      have hbare : closing ('{' :: '"' :: c :: left) = some (c :: left) := by
        rw [closing_cons (by decide) (by decide)]
        simp [closing]
      have hescaped : closing ('\\' :: '{' :: '"' :: c :: left) = some (c :: left) := by
        rw [closing_pair]
        simp [closing]
      rw [hbare, hescaped, or_self] at hclosing
      obtain rfl := Option.some.inj hclosing
      exact halts_of_plain hc left

theorem readValue_zero (depth : Nat) (cs : List Char) :
    readValue 0 depth cs = .error .malformed := by
  rw [readValue]

theorem readValue_plain {c : Char} (hc : isPlain c = true) (fuel depth : Nat) (cs : List Char) :
    readValue (fuel + 1) depth (c :: cs) = readScalar (c :: cs) := by
  have hne {d : Char} (hd : isPlain d = false) : c ≠ d := by
    rintro rfl
    exact absurd (hd.symm.trans hc) nofun
  have hquote : c ≠ '"' := hne (by decide)
  have hlist : c ≠ '[' := hne (by decide)
  have hobject : c ≠ '{' := hne (by decide)
  rw [readValue] <;> simp [hquote, hlist, hobject]

theorem Junk.readValue {more : List Char} (h : Junk more) (fuel depth : Nat) :
    Fails (readValue fuel (depth + 1) more) := by
  cases h with
  | none =>
      cases fuel with
      | zero => exact .inl (readValue_zero _ _)
      | succ fuel =>
          have hnothing : Json.readValue (fuel + 1) (depth + 1) [] = readScalar [] := by
            simp [Json.readValue]
          rw [hnothing]
          exact .inl rfl
  | object hc hread => exact hread fuel depth

theorem prefix_append_cases {α : Type} {p a b : List α} (h : p <+: a ++ b) :
    p <+: a ∨ ∃ t, p = a ++ t ∧ t ≠ [] ∧ t <+: b := by
  obtain ⟨rest, hrest⟩ := h
  rcases List.append_eq_append_iff.mp hrest with ⟨more, ha, -⟩ | ⟨more, hp, hb⟩
  · exact .inl ⟨more, ha.symm⟩
  · cases more with
    | nil => exact .inl ⟨[], by simpa using hp⟩
    | cons c more => exact .inr ⟨c :: more, hp, List.cons_ne_nil c more, rest, hb.symm⟩

/-- Text that is read back as a value before a comma or a brace, and after which, whole or cut short,
junk lets no object go on. -/
structure Legible (w : List Char) (v : Json) : Prop where
  first : ∀ rest, skipSpace (w ++ rest) = w ++ rest
  whole : ∀ fuel depth d rest, isDelimiter d = true →
    readValue (fuel + 1) depth (w ++ d :: rest) = .ok (v, d :: rest)
  torn : ∀ fuel depth p more, p <+: w → Junk more →
    Fails (readValue fuel (depth + 1) (skipSpace (p ++ more)))

theorem length_le_flatMap_escapeChar (cs : List Char) :
    cs.length ≤ (cs.flatMap escapeChar).length := by
  induction cs with
  | nil => exact Nat.le_refl 0
  | cons c cs ih =>
      have hpos : 0 < (escapeChar c).length := by
        rcases escapeChar_cases c with ⟨hself, -⟩ | ⟨e, hshort, -⟩ | hunits
        · simp [hself]
        · simp [hshort]
        · simp only [hunits, unitEscapes]
          split <;> exact Nat.succ_pos _
      rw [List.flatMap_cons, List.length_append, List.length_cons]
      omega

theorem writeText_plain (s : String) :
    writeText s = '"' :: s.toList.flatMap escapeChar ++ ['"'] := by
  rw [writeText, WideText.points, List.flatMap_map]
  rfl

theorem writeText_append (s : String) (rest : List Char) :
    writeText s ++ rest = '"' :: (s.toList.flatMap escapeChar ++ '"' :: rest) := by
  simp [writeText_plain]

theorem readText_string (s : String) (rest : List Char) :
    readText ((s.toList.flatMap escapeChar ++ '"' :: rest).length + 1)
      (s.toList.flatMap escapeChar ++ '"' :: rest) = .ok (s.toList.map .char, rest) := by
  have hlength := length_le_flatMap_escapeChar s.toList
  exact readText_chars (by rw [List.length_append]; omega) rest

/-- A string that is cut short, or has just been closed, with junk after it. -/
theorem readText_junk {cs p more : List Char} (hp : p <+: cs.flatMap escapeChar ++ ['"'])
    (hmore : Junk more) (fuel : Nat) : Fails (readText fuel (p ++ more)) := by
  rcases prefix_append_cases hp with hp | ⟨t, rfl, ht, hquote⟩
  · rcases readText_torn hp fuel more with hfails | ⟨xs, rest, hread, hclosing⟩
    · exact .inl hfails
    · exact .inr ⟨xs, rest, hread, hmore.halts_of_closing hclosing⟩
  · obtain rfl : t = ['"'] := by
      rcases List.prefix_cons_iff.mp hquote with hnil | ⟨tail, htail, hnil⟩
      · exact absurd hnil ht
      · rw [htail, List.prefix_nil.mp hnil]
    rw [List.append_assoc]
    rcases readText_stops fuel (cs.flatMap escapeChar ++ (['"'] ++ more)) with
      hfails | ⟨xs, rest, hread, hclosing⟩
    · exact .inl hfails
    · rw [(isEscaped_flatMap cs).closing_append] at hclosing
      have hrest : more = rest := by simpa [closing] using hclosing
      exact .inr ⟨xs, rest, hread, hrest ▸ hmore.halts⟩

theorem readValue_text (fuel depth : Nat) (rest : List Char) :
    readValue (fuel + 1) depth ('"' :: rest) =
      (readText (rest.length + 1) rest).map fun r => (.text (.ofPoints r.1), r.2) := by
  rw [readValue]
  cases readText (rest.length + 1) rest <;> rfl

theorem legible_text (s : String) : Legible (writeText s) (.text s) where
  first rest := by
    rw [writeText_append]
    exact skipSpace_cons (by decide) _
  whole fuel depth d rest hd := by
    rw [writeText_append, readValue_text, readText_string]
    simp [Except.map, WideText.ofPoints_chars]
  torn fuel depth p more hp hmore := by
    rw [writeText_plain, List.cons_append] at hp
    rcases List.prefix_cons_iff.mp hp with rfl | ⟨t, rfl, ht⟩
    · rw [List.nil_append, hmore.skipSpace]
      exact hmore.readValue fuel depth
    · rw [List.cons_append, skipSpace_cons (by decide)]
      cases fuel with
      | zero => exact .inl (readValue_zero _ _)
      | succ fuel =>
          rw [readValue_text]
          rcases readText_junk ht hmore ((t ++ more).length + 1) with
            hfails | ⟨xs, rest, hread, hhalts⟩
          · rw [hfails]
            exact .inl rfl
          · rw [hread]
            exact .inr ⟨_, rest, rfl, hhalts⟩

theorem takeWhile_junk {p t more : List Char} (hp : p <+: t) (hmore : Junk more) :
    ((p ++ more).takeWhile Decimal.isDigit).length ≤ (t.takeWhile Decimal.isDigit).length := by
  induction p generalizing t with
  | nil =>
      cases hmore with
      | none => exact Nat.zero_le _
      | object =>
          rw [List.nil_append, List.takeWhile_cons_of_neg (by decide)]
          exact Nat.zero_le _
  | cons c p ih =>
      obtain ⟨rest, rfl⟩ := hp
      rw [List.cons_append, List.cons_append]
      by_cases hc : Decimal.isDigit c = true
      · rw [List.takeWhile_cons_of_pos hc, List.takeWhile_cons_of_pos hc]
        exact Nat.succ_le_succ (ih (List.prefix_append p rest))
      · refine Nat.le_of_eq ?_
        rw [List.takeWhile_cons_of_neg hc, List.takeWhile_cons_of_neg hc]

theorem dropSign_junk {c : Char} {p t more : List Char} (hp : p <+: t) (hmore : Junk more) :
    ((dropSign (c :: (p ++ more))).takeWhile Decimal.isDigit).length ≤
      ((dropSign (c :: t)).takeWhile Decimal.isDigit).length := by
  by_cases hsign : c = '-'
  · subst hsign
    exact takeWhile_junk hp hmore
  · have hkeep (cs : List Char) : dropSign (c :: cs) = c :: cs := by
      rw [dropSign]
      exact fun rest h => hsign (List.cons.inj h).1
    rw [hkeep, hkeep]
    exact takeWhile_junk (p := c :: p) ((List.prefix_cons_inj c).mpr hp) hmore

theorem halts_of_passes {p more rest : List Char} (hplain : ∀ c ∈ p, isPlain c = true)
    (hmore : Junk more) (h : Passes (p ++ more) rest) : Halts rest := by
  obtain ⟨used, hused, hbrace⟩ := h
  rcases List.append_eq_append_iff.mp hused with ⟨extra, hextra, hmoreEq⟩ | ⟨tail, hp, rfl⟩
  · have hnil : extra = [] := by
      cases extra with
      | nil => rfl
      | cons c extra =>
          cases hmore with
          | none => cases hmoreEq
          | object =>
              obtain ⟨rfl, -⟩ := List.cons.inj hmoreEq
              exact absurd (by simp [hextra]) hbrace
    rw [hnil, List.nil_append] at hmoreEq
    exact hmoreEq ▸ hmore.halts
  · cases tail with
    | nil => exact hmore.halts
    | cons c tail => exact halts_of_plain (hplain c (by simp [hp])) _

theorem IsScalar.legible {w : List Char} (h : IsScalar w) : ∃ v, Legible w v := by
  obtain ⟨v, hread⟩ := h.read
  obtain ⟨c, cs, rfl⟩ := List.exists_cons_of_ne_nil h.ne_nil
  have hc : isPlain c = true := h.plain c List.mem_cons_self
  have hspace := (not_space_of_plain hc).1
  refine ⟨v, fun rest => skipSpace_cons hspace _, fun fuel depth d rest hd => ?_,
    fun fuel depth p more hp hmore => ?_⟩
  · rw [List.cons_append, readValue_plain hc]
    exact hread d rest hd
  · rcases List.prefix_cons_iff.mp hp with rfl | ⟨t, rfl, ht⟩
    · rw [List.nil_append, hmore.skipSpace]
      exact hmore.readValue fuel depth
    · rw [List.cons_append, skipSpace_cons hspace]
      cases fuel with
      | zero => exact .inl (readValue_zero _ _)
      | succ fuel =>
          rw [readValue_plain hc]
          have hshort := Nat.le_trans (dropSign_junk ht hmore) h.short
          rcases readScalar_stops hshort with hfails | ⟨v, rest, hread, hpasses⟩
          · exact .inl hfails
          · refine .inr ⟨v, rest, hread, halts_of_passes (p := c :: t) ?_ hmore hpasses⟩
            exact fun d hd => h.plain d (hp.subset hd)

/-- Fields that are written, and what they are read back as. -/
inductive ReadsBack : List (WideText × Json) → List (WideText × Json) → Prop where
  | nil : ReadsBack [] []
  | cons {name : String} {x v : Json} {fs gs : List (WideText × Json)}
      (hvalue : Legible (writeChars x) v) (rest : ReadsBack fs gs) :
      ReadsBack ((.plain name, x) :: fs) ((.plain name, v) :: gs)

def setFields (fields given : List (WideText × Json)) : List (WideText × Json) :=
  given.foldl (fun fields f => setField fields f.1 f.2) fields

def writeMore : List (WideText × Json) → List Char
  | [] => []
  | f :: fs => ',' :: writeFields (f :: fs)

theorem writeFields_cons (name : WideText) (x : Json) (fs : List (WideText × Json)) :
    writeFields ((name, x) :: fs) = writeText name ++ ':' :: (writeChars x ++ writeMore fs) := by
  cases fs with
  | nil => rw [writeFields, writeMore, List.append_nil]
  | cons f fs => rw [writeFields, writeMore, List.append_assoc, List.cons_append]

theorem skipSpace_fields {fs : List (WideText × Json)} {p more : List Char}
    (hp : p <+: writeFields fs) (hmore : skipSpace more = more) :
    skipSpace (p ++ more) = p ++ more := by
  cases p with
  | nil => exact hmore
  | cons c p =>
      cases fs with
      | nil => cases List.prefix_nil.mp hp
      | cons f fs =>
          obtain ⟨name, x⟩ := f
          rw [writeFields_cons, writeText, List.cons_append, List.cons_append] at hp
          obtain rfl := (List.cons_prefix_cons.mp hp).1
          exact skipSpace_cons (by decide) _

theorem readFields_zero (depth : Nat) (before : List (WideText × Json)) (cs : List Char) :
    readFields 0 depth before cs = .error .malformed := by
  rw [readFields]

def afterValue (fuel depth : Nat) (before : List (WideText × Json)) (name : WideText)
    (r : Json × List Char) : Except Flaw (List (WideText × Json) × List Char) :=
  match skipSpace r.2 with
  | '}' :: left => .ok (setField before name r.1, left)
  | ',' :: more => readFields fuel depth (setField before name r.1) (skipSpace more)
  | _ => .error .malformed

def afterName (fuel depth : Nat) (before : List (WideText × Json))
    (r : List CodePoint × List Char) :
    Except Flaw (List (WideText × Json) × List Char) :=
  match skipSpace r.2 with
  | ':' :: rest =>
      readValue fuel depth (skipSpace rest) >>= afterValue fuel depth before (.ofPoints r.1)
  | _ => .error .malformed

theorem readFields_succ (fuel depth : Nat) (before : List (WideText × Json)) (rest : List Char) :
    readFields (fuel + 1) depth before ('"' :: rest) =
      readText (rest.length + 1) rest >>= afterName fuel depth before := by
  rw [readFields]
  rfl

theorem afterName_colon (fuel depth : Nat) (before : List (WideText × Json)) (name : String)
    (rest : List Char) :
    afterName fuel depth before (name.toList.map .char, ':' :: rest) =
      readValue fuel depth (skipSpace rest) >>= afterValue fuel depth before name := by
  have hcolon : skipSpace (':' :: rest) = ':' :: rest := skipSpace_cons (by decide) rest
  simp only [afterName, hcolon, WideText.ofPoints_chars, String.ofList_toList]

theorem afterValue_brace (fuel depth : Nat) (before : List (WideText × Json)) (name : String)
    (x : Json) (rest : List Char) :
    afterValue fuel depth before name (x, '}' :: rest) = .ok (setField before name x, rest) := by
  have hbrace : skipSpace ('}' :: rest) = '}' :: rest := skipSpace_cons (by decide) rest
  simp only [afterValue, hbrace]

theorem afterValue_comma (fuel depth : Nat) (before : List (WideText × Json)) (name : String)
    (x : Json) (rest : List Char) :
    afterValue fuel depth before name (x, ',' :: rest) =
      readFields fuel depth (setField before name x) (skipSpace rest) := by
  have hcomma : skipSpace (',' :: rest) = ',' :: rest := skipSpace_cons (by decide) rest
  simp only [afterValue, hcomma]

theorem Fails.afterName {r : Except Flaw (List CodePoint × List Char)} (h : Fails r)
    (fuel depth : Nat) (before : List (WideText × Json)) :
    r >>= afterName fuel depth before = .error .malformed := by
  rcases h with rfl | ⟨xs, rest, rfl, hhalts⟩
  · rfl
  · change Json.afterName fuel depth before (xs, rest) = _
    unfold Json.afterName
    split
    · rename_i left hcolon
      exact absurd rfl (hhalts _ _ hcolon).1
    · rfl

theorem Fails.afterValue {r : Except Flaw (Json × List Char)} (h : Fails r)
    (fuel depth : Nat) (before : List (WideText × Json)) (name : String) :
    r >>= afterValue fuel depth before name = .error .malformed := by
  rcases h with rfl | ⟨x, rest, rfl, hhalts⟩
  · rfl
  · change Json.afterValue fuel depth before name (x, rest) = _
    unfold Json.afterValue
    split
    · rename_i left hbrace
      exact absurd (hhalts _ _ hbrace).2 (by decide)
    · rename_i left hcomma
      exact absurd (hhalts _ _ hcomma).2 (by decide)
    · rfl

theorem readFields_name (name : String) (fuel depth : Nat) (before : List (WideText × Json))
    (rest : List Char) :
    readFields (fuel + 1) depth before (writeText name ++ ':' :: rest) =
      readValue fuel depth (skipSpace rest) >>= afterValue fuel depth before name := by
  rw [writeText_append, readFields_succ, readText_string]
  exact afterName_colon fuel depth before name rest

theorem readFields_field (name : String) {x v : Json} (hvalue : Legible (writeChars x) v)
    {d : Char} (hd : isDelimiter d = true) (fuel depth : Nat)
    (before : List (WideText × Json)) (rest : List Char) :
    readFields (fuel + 2) depth before (writeText name ++ ':' :: (writeChars x ++ d :: rest)) =
      afterValue (fuel + 1) depth before name (v, d :: rest) := by
  rw [readFields_name, hvalue.first, hvalue.whole fuel depth d rest hd]
  rfl

theorem readFields_whole {fs gs : List (WideText × Json)} (h : ReadsBack fs gs) (hne : fs ≠ [])
    (fuel depth : Nat) (before : List (WideText × Json)) (rest : List Char) :
    readFields fuel depth before (writeFields fs ++ '}' :: rest) =
      if fs.length < fuel then .ok (setFields before gs, rest) else .error .malformed := by
  induction h generalizing fuel before with
  | nil => exact absurd rfl hne
  | @cons name x v fs gs hvalue hrest ih =>
      rw [writeFields_cons, List.append_assoc, List.cons_append, List.append_assoc]
      match fuel with
      | 0 => rw [readFields_zero, if_neg (Nat.not_lt_zero _)]
      | 1 =>
          rw [readFields_name, readValue_zero, if_neg (by simp)]
          rfl
      | fuel + 2 =>
          cases fs with
          | nil =>
              cases hrest
              rw [writeMore, List.nil_append, readFields_field name hvalue (by decide),
                afterValue_brace, if_pos (by simp)]
              rfl
          | cons f fs =>
              have hbrace : skipSpace ('}' :: rest) = '}' :: rest := skipSpace_cons (by decide) rest
              rw [writeMore, List.cons_append, readFields_field name hvalue (by decide),
                afterValue_comma, skipSpace_fields (List.prefix_refl _) hbrace,
                ih (List.cons_ne_nil f fs)]
              simp only [List.length_cons, Nat.add_lt_add_iff_right]
              rfl

theorem readFields_junk {more : List Char} (h : Junk more) (fuel depth : Nat)
    (before : List (WideText × Json)) :
    readFields fuel depth before more = .error .malformed := by
  cases fuel with
  | zero => exact readFields_zero depth before more
  | succ fuel =>
      cases h with
      | none => simp [readFields]
      | object => simp [readFields]

theorem readFields_torn {fs gs : List (WideText × Json)} (h : ReadsBack fs gs) {p more : List Char}
    (hp : p <+: writeFields fs) (hmore : Junk more) (fuel depth : Nat)
    (before : List (WideText × Json)) :
    readFields fuel (depth + 1) before (p ++ more) = .error .malformed := by
  induction h generalizing p fuel before with
  | nil =>
      obtain rfl := List.prefix_nil.mp hp
      exact readFields_junk hmore fuel _ before
  | @cons name x v fs gs hvalue _ ih =>
      cases fuel with
      | zero => exact readFields_zero _ before _
      | succ fuel =>
          rw [writeFields_cons] at hp
          rcases prefix_append_cases hp with hp | ⟨t, rfl, ht, htail⟩
          · -- The name is cut short, or nothing comes after it.
            rw [writeText_plain, List.cons_append] at hp
            rcases List.prefix_cons_iff.mp hp with rfl | ⟨t, rfl, ht⟩
            · exact readFields_junk hmore _ _ before
            · rw [List.cons_append, readFields_succ]
              exact (readText_junk ht hmore _).afterName fuel _ before
          · rcases List.prefix_cons_iff.mp htail with rfl | ⟨value, rfl, hvalueTail⟩
            · exact absurd rfl ht
            rw [List.append_assoc, List.cons_append, readFields_name]
            rcases prefix_append_cases hvalueTail with hcut | ⟨t, rfl, ht, hmoreFields⟩
            · exact (hvalue.torn fuel depth value more hcut hmore).afterValue fuel _ before name
            · cases fs with
              | nil => exact absurd (List.prefix_nil.mp hmoreFields) ht
              | cons f fs =>
                  rcases List.prefix_cons_iff.mp hmoreFields with rfl | ⟨fields, rfl, hfields⟩
                  · exact absurd rfl ht
                  cases fuel with
                  | zero =>
                      rw [readValue_zero]
                      rfl
                  | succ fuel =>
                      rw [List.append_assoc, hvalue.first, List.cons_append,
                        hvalue.whole fuel _ ',' _ (by decide)]
                      change Json.afterValue _ _ before name (v, ',' :: (fields ++ more)) = _
                      rw [afterValue_comma, skipSpace_fields hfields hmore.skipSpace]
                      exact ih hfields _ _

theorem writeChars_object (fs : List (WideText × Json)) :
    writeChars (.object fs) = '{' :: (writeFields fs ++ ['}']) := by
  rw [writeChars, List.cons_append]

theorem readValue_object {inner : List Char} (hspace : skipSpace inner = inner)
    (hbrace : ∀ left, inner ≠ '}' :: left) (fuel depth : Nat) :
    readValue (fuel + 1) (depth + 1) ('{' :: inner) =
      (readFields fuel depth [] inner).map fun r => (.object r.1, r.2) := by
  rw [readValue, hspace]
  split
  · rename_i left
    exact absurd rfl (hbrace left)
  · cases readFields fuel depth [] inner <;> rfl

theorem readValue_object_whole {fs gs : List (WideText × Json)} (h : ReadsBack fs gs) (hne : fs ≠ [])
    (fuel depth : Nat) (rest : List Char) :
    readValue fuel (depth + 1) (writeChars (.object fs) ++ rest) =
      if fs.length + 1 < fuel then .ok (.object (setFields [] gs), rest)
      else .error .malformed := by
  cases fuel with
  | zero => rw [readValue_zero, if_neg (Nat.not_lt_zero _)]
  | succ fuel =>
      have hspace : skipSpace (writeFields fs ++ '}' :: rest) = writeFields fs ++ '}' :: rest :=
        skipSpace_fields (List.prefix_refl _) (skipSpace_cons (by decide) rest)
      have hbrace : ∀ left, writeFields fs ++ '}' :: rest ≠ '}' :: left := by
        obtain ⟨⟨name, x⟩, fs, rfl⟩ := List.exists_cons_of_ne_nil hne
        rw [writeFields_cons, writeText]
        nofun
      rw [writeChars_object, List.cons_append, List.append_assoc, List.singleton_append,
        readValue_object hspace hbrace, readFields_whole h hne]
      simp only [Nat.add_lt_add_iff_right]
      split <;> rfl

theorem junk_object {fs gs : List (WideText × Json)} (h : ReadsBack fs gs) {name : String}
    {x : Json} {c : Char} {cs : List Char} (hname : name.toList = c :: cs)
    (hself : escapeChar c = [c]) (hc : isPlain c = true) (hfirst : fs.head? = some (↑name, x)) :
    Junk (writeChars (.object fs)) := by
  obtain ⟨fs, rfl⟩ : ∃ more, fs = (↑name, x) :: more := List.head?_eq_some_iff.mp hfirst
  obtain ⟨left, hleft⟩ : ∃ left, writeChars (.object ((↑name, x) :: fs)) = '{' :: '"' :: c :: left := by
    rw [writeChars_object, writeFields_cons, writeText_plain, hname, List.flatMap_cons, hself]
    exact ⟨_, rfl⟩
  rw [hleft]
  refine .object hc fun fuel depth => ?_
  have hread := readValue_object_whole h (List.cons_ne_nil _ _) fuel depth []
  rw [List.append_nil, hleft] at hread
  rw [hread]
  split
  · exact .inr ⟨_, [], rfl, nofun⟩
  · exact .inl rfl

theorem readValue_object_torn {fs gs : List (WideText × Json)} (h : ReadsBack fs gs)
    {p more : List Char} (hp : p <+: writeFields fs) (hmore : Junk more) (fuel depth : Nat) :
    readValue fuel (depth + 2) ('{' :: (p ++ more)) = .error .malformed := by
  cases fuel with
  | zero => exact readValue_zero _ _
  | succ fuel =>
      have hbrace : ∀ left, p ++ more ≠ '}' :: left := by
        intro left hleft
        cases p with
        | nil => cases hmore <;> cases hleft
        | cons c p =>
            obtain rfl := (List.cons.inj hleft).1
            cases h with
            | nil => cases List.prefix_nil.mp hp
            | cons =>
                rw [writeFields_cons, writeText_append] at hp
                exact absurd (List.cons_prefix_cons.mp hp).1 (by decide)
      rw [readValue_object (skipSpace_fields hp hmore.skipSpace) hbrace,
        readFields_torn h hp hmore]
      rfl

theorem length_le_writeFields (fs : List (WideText × Json)) :
    fs.length ≤ (writeFields fs).length := by
  induction fs with
  | nil => exact Nat.le_refl 0
  | cons f fs ih =>
      obtain ⟨name, x⟩ := f
      have hmore : (writeFields fs).length ≤ (writeMore fs).length := by
        cases fs with
        | nil => exact Nat.le_refl _
        | cons f fs => exact Nat.le_succ _
      rw [writeFields_cons]
      simp only [List.length_append, List.length_cons]
      omega

theorem read_object {fs gs : List (WideText × Json)} (h : ReadsBack fs gs) (hne : fs ≠ []) :
    read (String.ofList (writeChars (.object fs))) = .ok (.object (setFields [] gs)) := by
  have hlength : fs.length + 2 ≤ (writeChars (.object fs)).length := by
    have hfields := length_le_writeFields fs
    rw [writeChars_object, List.length_cons, List.length_append, List.length_singleton]
    omega
  have hspace : skipSpace (writeChars (.object fs)) = writeChars (.object fs) := by
    rw [writeChars_object]
    exact skipSpace_cons (by decide) _
  have hread := readValue_object_whole h hne (2 * (writeChars (.object fs)).length + 2) 988 []
  rw [List.append_nil, if_pos (by omega)] at hread
  simp only [read, String.toList_ofList, hspace]
  rw [show maxDepth = 988 + 1 from rfl, hread]
  rfl

/-- The start of the text of an object is no JSON, neither alone nor with junk after it, and nor is
its whole text with junk after it. -/
theorem read_torn {fs gs : List (WideText × Json)} (h : ReadsBack fs gs) (hfields : fs ≠ [])
    {p more : List Char} (hp : p <+: writeChars (.object fs)) (hne : p ≠ []) (hmore : Junk more)
    (hcut : p ≠ writeChars (.object fs) ∨ more ≠ []) :
    read (String.ofList (p ++ more)) = .error .malformed := by
  have hspace : skipSpace (p ++ more) = p ++ more := by
    obtain ⟨c, p, rfl⟩ := List.exists_cons_of_ne_nil hne
    rw [writeChars_object] at hp
    obtain rfl := (List.cons_prefix_cons.mp hp).1
    exact skipSpace_cons (by decide) _
  simp only [read, String.toList_ofList, hspace]
  by_cases hwhole : p = writeChars (.object fs)
  · rw [hwhole, show maxDepth = 988 + 1 from rfl, readValue_object_whole h hfields]
    split
    · cases hmore with
      | none => exact absurd rfl (hcut.resolve_left (fun hne => hne hwhole))
      | object => rfl
    · rfl
  · obtain ⟨c, t, rfl⟩ := List.exists_cons_of_ne_nil hne
    rw [writeChars_object] at hp hwhole
    obtain ⟨rfl, ht⟩ := List.cons_prefix_cons.mp hp
    have htorn : t <+: writeFields fs := by
      rcases prefix_append_cases ht with ht | ⟨tail, rfl, htail, hbrace⟩
      · exact ht
      · rcases List.prefix_cons_iff.mp hbrace with rfl | ⟨rest, rfl, hrest⟩
        · exact absurd rfl htail
        · rw [List.prefix_nil.mp hrest] at hwhole
          exact absurd rfl hwhole
    rw [show maxDepth = 987 + 2 from rfl, List.cons_append, readValue_object_torn h htorn hmore]
    rfl

end RawSeries.Json
