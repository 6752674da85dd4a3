import RawSeries.Bytes.Utf8

namespace RawSeries.Utf8

/-- A byte after the first one of a character. -/
def Follows (x : UInt8) : Prop :=
  128 ≤ x.toNat ∧ x.toNat ≤ 191

/-- The bytes of one character. No form is longer than it has to be, none is half of a surrogate
pair, and the last one is U+10FFFF. -/
inductive Sequence : Bytes → Prop
  | one (a : UInt8) (ha : a.toNat < 128) : Sequence [a]
  | two (a b : UInt8) (hlong : 194 ≤ a.toNat) (ha : a.toNat < 224) (hb : Follows b) :
      Sequence [a, b]
  | three (a b c : UInt8) (ha : 224 ≤ a.toNat ∧ a.toNat < 240) (hb : Follows b) (hc : Follows c)
      (hlong : a.toNat = 224 → 160 ≤ b.toNat) (hhalf : a.toNat = 237 → b.toNat < 160) :
      Sequence [a, b, c]
  | four (a b c d : UInt8) (ha : 240 ≤ a.toNat ∧ a.toNat ≤ 244) (hb : Follows b) (hc : Follows c)
      (hd : Follows d) (hlong : a.toNat = 240 → 144 ≤ b.toNat)
      (hlast : a.toNat = 244 → b.toNat < 144) : Sequence [a, b, c, d]

/-- The bytes of characters one after the other, the last one complete. -/
inductive WellFormed : Bytes → Prop
  | nil : WellFormed []
  | append {own more : Bytes} (h : Sequence own) (hmore : WellFormed more) : WellFormed (own ++ more)

theorem within_eq_some {low high n : Nat} {rest more : Bytes}
    (h : within low high rest = some (n, more)) :
    ∃ y, rest = y :: more ∧ low ≤ y.toNat ∧ y.toNat ≤ high := by
  cases rest with
  | nil => cases h
  | cons y rest =>
      rw [within] at h
      split at h
      · rename_i hrange
        cases h
        exact ⟨y, rfl, hrange.1, hrange.2⟩
      · cases h

theorem within_byte {low high n : Nat} (hlow : low ≤ 128 + n) (hhigh : 128 + n ≤ high)
    (hn : n < 64) (more : Bytes) :
    within low high (UInt8.ofNat (128 + n) :: more) = some (n, more) := by
  have hbyte : (UInt8.ofNat (128 + n)).toNat = 128 + n := by
    rw [UInt8.toNat_ofNat']
    omega
  rw [within, hbyte, if_pos ⟨hlow, hhigh⟩]
  congr 2
  omega

theorem twoBytes_eq {a n width : Nat} {rest : Bytes} (h : twoBytes a rest = .character n width) :
    width = 2 ∧ ∃ b more, rest = b :: more ∧ Follows b := by
  unfold twoBytes at h
  split at h
  · rename_i hb
    cases h
    obtain ⟨b, rfl, hlow, hhigh⟩ := within_eq_some hb
    exact ⟨rfl, b, _, rfl, hlow, hhigh⟩
  · cases h

theorem threeBytes_eq {a low high n width : Nat} {rest : Bytes}
    (h : threeBytes a low high rest = .character n width) :
    width = 3 ∧ ∃ b c more, rest = b :: c :: more ∧ low ≤ b.toNat ∧ b.toNat ≤ high ∧ Follows c := by
  unfold threeBytes at h
  split at h
  · cases h
  rename_i hb
  split at h
  · rename_i hc
    cases h
    obtain ⟨b, rfl, hlow, hhigh⟩ := within_eq_some hb
    obtain ⟨c, rfl, hfollows⟩ := within_eq_some hc
    exact ⟨rfl, b, c, _, rfl, hlow, hhigh, hfollows⟩
  · cases h

theorem fourBytes_eq {a low high n width : Nat} {rest : Bytes}
    (h : fourBytes a low high rest = .character n width) :
    width = 4 ∧ ∃ b c d more, rest = b :: c :: d :: more ∧ low ≤ b.toNat ∧ b.toNat ≤ high ∧
      Follows c ∧ Follows d := by
  unfold fourBytes at h
  split at h
  · cases h
  rename_i hb
  split at h
  · cases h
  rename_i hc
  split at h
  · rename_i hd
    cases h
    obtain ⟨b, rfl, hlow, hhigh⟩ := within_eq_some hb
    obtain ⟨c, rfl, hfollows⟩ := within_eq_some hc
    obtain ⟨d, rfl, hlast⟩ := within_eq_some hd
    exact ⟨rfl, b, c, d, _, rfl, hlow, hhigh, hfollows, hlast⟩
  · cases h

section Start

variable {x : UInt8}

theorem start_one (h : x.toNat < 128) (rest : Bytes) : start x rest = .character x.toNat 1 := by
  unfold start
  dsimp only
  rw [if_pos h]

theorem start_two (h : 194 ≤ x.toNat ∧ x.toNat < 224) (rest : Bytes) :
    start x rest = twoBytes x.toNat rest := by
  unfold start
  dsimp only
  rw [if_neg (by omega), if_neg (by omega), if_pos h.2]

theorem start_three (h : 224 ≤ x.toNat ∧ x.toNat < 240) (rest : Bytes) :
    start x rest = threeBytes x.toNat (if x.toNat = 224 then 160 else 128)
      (if x.toNat = 237 then 159 else 191) rest := by
  unfold start
  dsimp only
  rw [if_neg (by omega), if_neg (by omega), if_neg (by omega), if_pos h.2]
  by_cases hfirst : x.toNat = 224
  · simp [hfirst]
  · by_cases hpair : x.toNat = 237
    · simp [hpair]
    · simp [hfirst, hpair]

theorem start_four (h : 240 ≤ x.toNat ∧ x.toNat ≤ 244) (rest : Bytes) :
    start x rest = fourBytes x.toNat (if x.toNat = 240 then 144 else 128)
      (if x.toNat = 244 then 143 else 191) rest := by
  unfold start
  dsimp only
  rw [if_neg (by omega), if_neg (by omega), if_neg (by omega), if_neg (by omega),
    if_neg (by omega), if_neg (by omega)]
  by_cases hfirst : x.toNat = 240
  · simp [hfirst]
  · by_cases hlast : x.toNat = 244
    · simp [hlast]
    · have hmiddle : x.toNat < 244 := by omega
      simp [hfirst, hlast, hmiddle]

theorem start_broken (h : 128 ≤ x.toNat ∧ x.toNat < 194 ∨ 244 < x.toNat) (rest : Bytes) :
    start x rest = .broken 1 := by
  unfold start
  dsimp only
  by_cases hlow : x.toNat < 194
  · rw [if_neg (by omega), if_pos hlow]
  · rw [if_neg (by omega), if_neg hlow, if_neg (by omega), if_neg (by omega), if_neg (by omega),
      if_neg (by omega), if_neg (by omega), if_neg (by omega), if_neg (by omega)]

end Start

/-- What starts a character is one of its forms, in as many bytes as are said to belong to it. -/
theorem sequence_of_start {x : UInt8} {rest : Bytes} {n width : Nat}
    (h : start x rest = .character n width) :
    ∃ own more, rest = own ++ more ∧ width = own.length + 1 ∧ Sequence (x :: own) := by
  have hcases : x.toNat < 128 ∨ (128 ≤ x.toNat ∧ x.toNat < 194 ∨ 244 < x.toNat) ∨
      (194 ≤ x.toNat ∧ x.toNat < 224) ∨ (224 ≤ x.toNat ∧ x.toNat < 240) ∨
      (240 ≤ x.toNat ∧ x.toNat ≤ 244) := by
    omega
  rcases hcases with hone | hbroken | htwo | hthree | hfour
  · rw [start_one hone] at h
    cases h
    exact ⟨[], rest, rfl, rfl, .one x hone⟩
  · rw [start_broken hbroken] at h
    cases h
  · rw [start_two htwo] at h
    obtain ⟨rfl, b, more, rfl, hb⟩ := twoBytes_eq h
    exact ⟨[b], more, rfl, rfl, .two x b htwo.1 htwo.2 hb⟩
  · rw [start_three hthree] at h
    obtain ⟨rfl, b, c, more, rfl, hlow, hhigh, hc⟩ := threeBytes_eq h
    refine ⟨[b, c], more, rfl, rfl, .three x b c hthree ⟨?_, ?_⟩ hc ?_ ?_⟩
    all_goals split at hlow <;> split at hhigh <;> omega
  · rw [start_four hfour] at h
    obtain ⟨rfl, b, c, d, more, rfl, hlow, hhigh, hc, hd⟩ := fourBytes_eq h
    refine ⟨[b, c, d], more, rfl, rfl, .four x b c d hfour ⟨?_, ?_⟩ hc hd ?_ ?_⟩
    all_goals split at hlow <;> split at hhigh <;> omega

theorem follows_ofNat {n : Nat} (h : n < 64) : Follows (UInt8.ofNat (128 + n)) := by
  rw [Follows, UInt8.toNat_ofNat']
  omega

theorem sequence_encodeCode {n : Nat} (h : n.isValidChar) : Sequence (encodeCode n) := by
  have hrange : n < 55296 ∨ 57343 < n ∧ n < 1114112 := h
  unfold encodeCode
  split
  · exact .one _ (by rw [UInt8.toNat_ofNat']; omega)
  split
  · refine .two _ _ ?_ ?_ (follows_ofNat (by omega))
    all_goals rw [UInt8.toNat_ofNat']; omega
  split
  · refine .three _ _ _ ?_ (follows_ofNat (by omega)) (follows_ofNat (by omega)) ?_ ?_
    all_goals simp only [UInt8.toNat_ofNat']; omega
  · refine .four _ _ _ _ ?_ (follows_ofNat (by omega)) (follows_ofNat (by omega))
      (follows_ofNat (by omega)) ?_ ?_
    all_goals simp only [UInt8.toNat_ofNat']; omega

theorem ofNat_eq {n : Nat} {x : UInt8} (h : n = x.toNat) : UInt8.ofNat n = x := by
  rw [h, UInt8.ofNat_toNat]

theorem exists_code {b : Bytes} (h : Sequence b) : ∃ n, n.isValidChar ∧ encodeCode n = b := by
  cases h with
  | one a ha =>
      refine ⟨a.toNat, .inl (by omega), ?_⟩
      rw [encodeCode, if_pos ha, UInt8.ofNat_toNat]
  | two a b hlong ha hb =>
      obtain ⟨hlow, hhigh⟩ := hb
      refine ⟨(a.toNat - 192) * 64 + (b.toNat - 128), .inl (by omega), ?_⟩
      rw [encodeCode, if_neg (by omega), if_pos (by omega)]
      simp only [List.cons.injEq, and_true]
      exact ⟨ofNat_eq (by omega), ofNat_eq (by omega)⟩
  | three a b c ha hb hc hlong hhalf =>
      obtain ⟨hb₁, hb₂⟩ := hb
      obtain ⟨hc₁, hc₂⟩ := hc
      let n := (a.toNat - 224) * 4096 + (b.toNat - 128) * 64 + (c.toNat - 128)
      have hvalid : n < 55296 ∨ 57343 < n ∧ n < 1114112 := by
        simp only [n]
        omega
      refine ⟨n, hvalid, ?_⟩
      simp only [n]
      rw [encodeCode, if_neg (by omega), if_neg (by omega), if_pos (by omega)]
      simp only [List.cons.injEq, and_true]
      exact ⟨ofNat_eq (by omega), ofNat_eq (by omega), ofNat_eq (by omega)⟩
  | four a b c d ha hb hc hd hlong hlast =>
      obtain ⟨hb₁, hb₂⟩ := hb
      obtain ⟨hc₁, hc₂⟩ := hc
      obtain ⟨hd₁, hd₂⟩ := hd
      let n := (a.toNat - 240) * 262144 + (b.toNat - 128) * 4096 + (c.toNat - 128) * 64 +
        (d.toNat - 128)
      have hvalid : n < 55296 ∨ 57343 < n ∧ n < 1114112 := by
        simp only [n]
        omega
      refine ⟨n, hvalid, ?_⟩
      simp only [n]
      rw [encodeCode, if_neg (by omega), if_neg (by omega), if_neg (by omega)]
      simp only [List.cons.injEq, and_true]
      exact ⟨ofNat_eq (by omega), ofNat_eq (by omega), ofNat_eq (by omega), ofNat_eq (by omega)⟩

theorem start_encodeCode {n : Nat} (h : n.isValidChar) :
    ∃ x own, encodeCode n = x :: own ∧
      ∀ more, start x (own ++ more) = .character n (own.length + 1) := by
  have hrange : n < 55296 ∨ 57343 < n ∧ n < 1114112 := h
  unfold encodeCode
  split
  · rename_i hone
    refine ⟨_, _, rfl, fun more => ?_⟩
    have hx : (UInt8.ofNat n).toNat = n := by rw [UInt8.toNat_ofNat']; omega
    rw [start_one (by omega), hx]
    rfl
  split
  · refine ⟨_, _, rfl, fun more => ?_⟩
    have hx : (UInt8.ofNat (192 + n / 64)).toNat = 192 + n / 64 := by
      rw [UInt8.toNat_ofNat']
      omega
    rw [start_two (by omega), hx, twoBytes, List.singleton_append,
      within_byte (by omega) (by omega) (by omega)]
    dsimp only
    congr 1
    omega
  split
  · refine ⟨_, _, rfl, fun more => ?_⟩
    have hx : (UInt8.ofNat (224 + n / 4096)).toNat = 224 + n / 4096 := by
      rw [UInt8.toNat_ofNat']
      omega
    rw [start_three (by omega), hx, threeBytes, List.cons_append, List.singleton_append,
      within_byte (by split <;> omega) (by split <;> omega) (by omega)]
    dsimp only
    rw [within_byte (by omega) (by omega) (by omega)]
    dsimp only
    congr 1
    omega
  · refine ⟨_, _, rfl, fun more => ?_⟩
    have hx : (UInt8.ofNat (240 + n / 262144)).toNat = 240 + n / 262144 := by
      rw [UInt8.toNat_ofNat']
      omega
    rw [start_four (by omega), hx, fourBytes, List.cons_append, List.cons_append,
      List.singleton_append, within_byte (by split <;> omega) (by split <;> omega) (by omega)]
    dsimp only
    rw [within_byte (by omega) (by omega) (by omega)]
    dsimp only
    rw [within_byte (by omega) (by omega) (by omega)]
    dsimp only
    congr 1
    omega

theorem encodeCode_of_start {x : UInt8} {rest : Bytes} {n width : Nat}
    (h : start x rest = .character n width) :
    n.isValidChar ∧ encodeCode n ++ rest.drop (width - 1) = x :: rest := by
  obtain ⟨own, more, rfl, rfl, hsequence⟩ := sequence_of_start h
  obtain ⟨code, hvalid, hcode⟩ := exists_code hsequence
  obtain ⟨y, others, hwritten, hstart⟩ := start_encodeCode hvalid
  obtain ⟨rfl, rfl⟩ := List.cons.inj (hcode.symm.trans hwritten)
  rw [hstart more] at h
  cases h
  refine ⟨hvalid, ?_⟩
  rw [hcode, Nat.add_sub_cancel, List.drop_left]
  rfl

theorem toNat_ofNat_of_valid {n : Nat} (h : n.isValidChar) : (Char.ofNat n).toNat = n := by
  rw [Char.ofNat, dif_pos h]
  rfl

theorem decodeChars?_eq_some_iff {b : Bytes} {cs : List Char} :
    decodeChars? b = some cs ↔ cs.flatMap (fun c => encodeCode c.toNat) = b := by
  constructor
  · intro h
    fun_induction decodeChars? b generalizing cs with
    | case1 =>
        cases h
        rfl
    | case2 x rest width hstart => cases h
    | case3 x rest code width hstart ih =>
        obtain ⟨others, hothers, rfl⟩ := Option.map_eq_some_iff.mp h
        obtain ⟨hvalid, hbytes⟩ := encodeCode_of_start hstart
        rw [List.flatMap_cons, toNat_ofNat_of_valid hvalid, ih hothers, hbytes]
  · rintro rfl
    induction cs with
    | nil => rw [List.flatMap_nil, decodeChars?]
    | cons c cs ih =>
        obtain ⟨x, own, hwritten, hstart⟩ := start_encodeCode c.valid
        have hcode : encodeCode c.toNat = x :: own := hwritten
        rw [List.flatMap_cons, hcode, List.cons_append, decodeChars?, hstart]
        dsimp only
        rw [Nat.add_sub_cancel, List.drop_left, ih, Option.map_some]
        congr 2
        exact Char.ofNat_toNat c

theorem decode?_eq_some_iff {b : Bytes} {s : String} : decode? b = some s ↔ encode s = b := by
  rw [decode?, Option.map_eq_some_iff, encode]
  constructor
  · rintro ⟨cs, hcs, rfl⟩
    rw [String.toList_ofList]
    exact decodeChars?_eq_some_iff.mp hcs
  · intro h
    exact ⟨s.toList, decodeChars?_eq_some_iff.mpr h, String.ofList_toList⟩

theorem wellFormed_iff {b : Bytes} : WellFormed b ↔ ∃ s, encode s = b := by
  constructor
  · intro h
    induction h with
    | nil => exact ⟨"", rfl⟩
    | @append own more h hmore ih =>
        obtain ⟨n, hvalid, rfl⟩ := exists_code h
        obtain ⟨s, rfl⟩ := ih
        refine ⟨String.ofList (Char.ofNat n :: s.toList), ?_⟩
        rw [encode, String.toList_ofList, List.flatMap_cons, toNat_ofNat_of_valid hvalid]
        rfl
  · rintro ⟨s, rfl⟩
    rw [encode]
    induction s.toList with
    | nil => exact .nil
    | cons c cs ih => exact .append (sequence_encodeCode c.valid) ih

theorem decode?_eq_none_iff {b : Bytes} : decode? b = none ↔ ¬WellFormed b := by
  rw [wellFormed_iff, Option.eq_none_iff_forall_ne_some]
  constructor
  · rintro hnone ⟨s, hs⟩
    exact hnone s (decode?_eq_some_iff.mpr hs)
  · intro hnone s hs
    exact hnone ⟨s, decode?_eq_some_iff.mp hs⟩

end RawSeries.Utf8
