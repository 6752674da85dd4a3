import RawSeries.Bytes.Base64

namespace RawSeries.Base64

theorem number?_letter {n : Nat} (h : n < 64) : number? (letter n) = some n := by
  have hall : ∀ k : Fin 64, number? (letter k) = some k.val := by decide
  exact hall ⟨n, h⟩

theorem letter_ne_pad {n : Nat} (h : n < 64) : letter n ≠ '=' := by
  have hall : ∀ k : Fin 64, letter k ≠ '=' := by decide
  exact hall ⟨n, h⟩

theorem letter_ascii {n : Nat} (h : n < 64) : (letter n).toNat < 128 := by
  have hall : ∀ k : Fin 64, (letter k).toNat < 128 := by decide
  exact hall ⟨n, h⟩

theorem decodeFrom_letter {n : Nat} (h : n < 64) (place left pads : Nat) (rest : List Char) :
    decodeFrom place left pads (letter n :: rest) =
      (decodeFrom ((place + 1) % 4) (leftOver place n) 0 rest).map (finished place left n ++ ·) := by
  rw [decodeFrom, if_neg (letter_ne_pad h), number?_letter h]
  cases hrest : decodeFrom ((place + 1) % 4) (leftOver place n) 0 rest with
  | error flaw =>
      simp only [hrest]
      rfl
  | ok b =>
      simp only [hrest]
      rfl

theorem map_append_nil (r : Except Flaw Bytes) : r.map ([] ++ ·) = r := by
  cases r <;> rfl

theorem decodeFrom_zero {n : Nat} (h : n < 64) (left pads : Nat) (rest : List Char) :
    decodeFrom 0 left pads (letter n :: rest) = decodeFrom 1 n 0 rest := by
  rw [decodeFrom_letter h]
  exact map_append_nil _

theorem decodeFrom_one {n left : Nat} {x : UInt8} (h : n < 64) (hx : left * 4 + n / 16 = x.toNat)
    (pads : Nat) (rest : List Char) :
    decodeFrom 1 left pads (letter n :: rest) =
      (decodeFrom 2 (n % 16) 0 rest).map (x :: ·) := by
  rw [decodeFrom_letter h]
  have hbyte : finished 1 left n = [x] := by simp only [finished, hx, UInt8.ofNat_toNat]; rfl
  rw [hbyte]
  rfl

theorem decodeFrom_two {n left : Nat} {x : UInt8} (h : n < 64) (hx : left * 16 + n / 4 = x.toNat)
    (pads : Nat) (rest : List Char) :
    decodeFrom 2 left pads (letter n :: rest) =
      (decodeFrom 3 (n % 4) 0 rest).map (x :: ·) := by
  rw [decodeFrom_letter h]
  have hbyte : finished 2 left n = [x] := by simp only [finished, hx, UInt8.ofNat_toNat]; rfl
  rw [hbyte]
  rfl

theorem decodeFrom_three {n left : Nat} {x : UInt8} (h : n < 64) (hx : left * 64 + n = x.toNat)
    (pads : Nat) (rest : List Char) :
    decodeFrom 3 left pads (letter n :: rest) =
      (decodeFrom 0 0 0 rest).map (x :: ·) := by
  rw [decodeFrom_letter h]
  have hbyte : finished 3 left n = [x] := by simp only [finished, hx, UInt8.ofNat_toNat]; rfl
  rw [hbyte]
  rfl

theorem encodeChars_ascii (b : Bytes) : ∀ c ∈ encodeChars b, c.toNat < 128 := by
  fun_induction encodeChars b with
  | case1 => simp
  | case2 x =>
      have hx := x.toNat_lt
      simp only [List.forall_mem_cons, List.not_mem_nil, false_implies, implies_true, and_true]
      exact ⟨letter_ascii (by omega), letter_ascii (by omega), by decide, by decide⟩
  | case3 x y =>
      have hx := x.toNat_lt
      have hy := y.toNat_lt
      simp only [List.forall_mem_cons, List.not_mem_nil, false_implies, implies_true, and_true]
      exact ⟨letter_ascii (by omega), letter_ascii (by omega), letter_ascii (by omega), by decide⟩
  | case4 x y z rest ih =>
      have hx := x.toNat_lt
      have hy := y.toNat_lt
      have hz := z.toNat_lt
      simp only [List.forall_mem_cons]
      exact ⟨letter_ascii (by omega), letter_ascii (by omega), letter_ascii (by omega),
        letter_ascii (by omega), ih⟩

theorem decodeFrom_encodeChars (b : Bytes) : decodeFrom 0 0 0 (encodeChars b) = .ok b := by
  fun_induction encodeChars b with
  | case1 => rfl
  | case2 x =>
      have hx := x.toNat_lt
      rw [decodeFrom_zero (by omega), decodeFrom_one (x := x) (by omega) (by omega)]
      rfl
  | case3 x y =>
      have hx := x.toNat_lt
      have hy := y.toNat_lt
      rw [decodeFrom_zero (by omega), decodeFrom_one (x := x) (by omega) (by omega),
        decodeFrom_two (x := y) (by omega) (by omega)]
      rfl
  | case4 x y z rest ih =>
      have hx := x.toNat_lt
      have hy := y.toNat_lt
      have hz := z.toNat_lt
      rw [decodeFrom_zero (by omega), decodeFrom_one (x := x) (by omega) (by omega),
        decodeFrom_two (x := y) (by omega) (by omega),
        decodeFrom_three (x := z) (by omega) (by omega), ih]
      rfl

theorem decode_encode (b : Bytes) : decode (encode b) = .ok b := by
  have hascii : (encode b).toList.all (·.toNat < 128) = true := by
    simpa [encode, List.all_eq_true] using encodeChars_ascii b
  rw [decode, if_pos hascii, encode, String.toList_ofList, decodeFrom_encodeChars]

end RawSeries.Base64
