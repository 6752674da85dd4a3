import RawSeries.Bytes.Basic

namespace RawSeries.Bytes

theorem foldl_value (n : Nat) (b : Bytes) :
    b.foldl (fun n x => n * 256 + x.toNat) n = n * Nat.pow 256 b.length + value b := by
  induction b generalizing n with
  | nil => simp [value]
  | cons x b ih =>
      have hvalue : value (x :: b) = (0 * 256 + x.toNat) * Nat.pow 256 b.length + value b := ih _
      rw [List.foldl_cons, ih, hvalue, List.length_cons]
      simp only [Nat.pow_eq, Nat.pow_succ, Nat.zero_mul, Nat.zero_add]
      rw [Nat.add_mul, Nat.mul_assoc, Nat.mul_comm 256, Nat.add_assoc]

theorem value_cons (x : UInt8) (b : Bytes) :
    value (x :: b) = x.toNat * Nat.pow 256 b.length + value b := by
  rw [← foldl_value, value, List.foldl_cons, Nat.zero_mul, Nat.zero_add]

theorem value_lt (b : Bytes) : value b < Nat.pow 256 b.length := by
  induction b with
  | nil => exact Nat.one_pos
  | cons x b ih =>
      have hx := x.toNat_lt
      have hfirst : (x.toNat + 1) * Nat.pow 256 b.length ≤ 256 * Nat.pow 256 b.length :=
        Nat.mul_le_mul_right _ hx
      rw [value_cons, List.length_cons]
      simp only [Nat.pow_eq, Nat.pow_succ, Nat.add_mul] at ih hfirst ⊢
      omega

theorem value_take_lt (n : Nat) (b : Bytes) : value (b.take n) < Nat.pow 256 n :=
  Nat.lt_of_lt_of_le (value_lt (b.take n))
    (Nat.pow_le_pow_right (by decide) (List.length_take_le n b))

theorem length_encode (width n : Nat) : (encode width n).length = width := by
  induction width with
  | zero => rfl
  | succ width ih => rw [encode, List.length_cons, ih]

theorem value_encode (width n : Nat) : value (encode width n) = n % Nat.pow 256 width := by
  induction width with
  | zero => exact (Nat.mod_one n).symm
  | succ width ih =>
      have hbyte : (UInt8.ofNat (n / Nat.pow 256 width % 256)).toNat =
          n / Nat.pow 256 width % 256 := by
        simp
      rw [encode, value_cons, ih, length_encode, hbyte]
      simp only [Nat.pow_eq, Nat.pow_succ]
      rw [Nat.mod_mul, Nat.mul_comm, Nat.add_comm]

theorem append_lt_append_iff {a b : Bytes} (h : a.length = b.length) (r s : Bytes) :
    a ++ r < b ++ s ↔ a < b ∨ a = b ∧ r < s := by
  induction a generalizing b with
  | nil =>
      obtain rfl := List.eq_nil_of_length_eq_zero h.symm
      simp
  | cons x a ih =>
      obtain ⟨y, b, rfl⟩ := List.exists_cons_of_length_eq_add_one h.symm
      rw [List.cons_append, List.cons_append, List.cons_lt_cons_iff, List.cons_lt_cons_iff,
        ih (by simpa using h)]
      constructor
      · rintro (hlt | ⟨rfl, hlt | ⟨rfl, hlt⟩⟩)
        · exact .inl (.inl hlt)
        · exact .inl (.inr ⟨rfl, hlt⟩)
        · exact .inr ⟨rfl, hlt⟩
      · rintro ((hlt | ⟨rfl, hlt⟩) | ⟨heq, hlt⟩)
        · exact .inl hlt
        · exact .inr ⟨rfl, .inl hlt⟩
        · obtain ⟨rfl, rfl⟩ := List.cons.inj heq
          exact .inr ⟨rfl, .inr ⟨rfl, hlt⟩⟩

theorem lt_iff_value_lt {a b : Bytes} (h : a.length = b.length) : a < b ↔ value a < value b := by
  induction a generalizing b with
  | nil =>
      obtain rfl := List.eq_nil_of_length_eq_zero h.symm
      simp
  | cons x a ih =>
      obtain ⟨y, b, rfl⟩ := List.exists_cons_of_length_eq_add_one h.symm
      have hlength : a.length = b.length := by simpa using h
      have ha := value_lt a
      have hb := value_lt b
      rw [hlength] at ha
      rw [List.cons_lt_cons_iff, ih hlength, value_cons, value_cons, hlength]
      constructor
      · rintro (hlt | ⟨rfl, hlt⟩)
        · have hfirst : (x.toNat + 1) * Nat.pow 256 b.length ≤ y.toNat * Nat.pow 256 b.length :=
            Nat.mul_le_mul_right _ hlt
          rw [Nat.add_mul] at hfirst
          omega
        · omega
      · intro hlt
        by_cases hxy : x = y
        · subst hxy
          exact .inr ⟨rfl, by omega⟩
        · left
          apply Nat.lt_of_le_of_ne _ (fun heq => hxy (UInt8.toNat_inj.mp heq))
          apply Nat.le_of_not_lt
          intro hyx
          have hfirst : (y.toNat + 1) * Nat.pow 256 b.length ≤ x.toNat * Nat.pow 256 b.length :=
            Nat.mul_le_mul_right _ hyx
          rw [Nat.add_mul] at hfirst
          omega

theorem eq_of_value_eq {a b : Bytes} (h : a.length = b.length) (hvalue : value a = value b) :
    a = b := by
  apply List.le_antisymm
  · rw [← List.not_lt, lt_iff_value_lt h.symm]
    omega
  · rw [← List.not_lt, lt_iff_value_lt h]
    omega

theorem encode_value (b : Bytes) : encode b.length (value b) = b := by
  apply eq_of_value_eq (length_encode _ _)
  rw [value_encode, Nat.mod_eq_of_lt (value_lt b)]

theorem value_append (a b : Bytes) : value (a ++ b) = value a * Nat.pow 256 b.length + value b := by
  rw [← foldl_value, value, List.foldl_append]
  rfl

/-- A byte string before another one that is at least as long writes a smaller number, unless both
write zero. -/
theorem value_lt_of_lt {a b : Bytes} (h : a < b) (hlength : a.length ≤ b.length)
    (hpos : 0 < value b) : value a < value b := by
  let first := b.take a.length
  let rest := b.drop a.length
  have hb : b = first ++ rest := (List.take_append_drop a.length b).symm
  have hfirst : a.length = first.length := (List.length_take_of_le hlength).symm
  have hvalue : value b = value first * Nat.pow 256 rest.length + value rest := by
    rw [← value_append, ← hb]
  have hlt : a ++ [] < first ++ rest := by
    rw [List.append_nil, ← hb]
    exact h
  rcases (append_lt_append_iff hfirst [] rest).mp hlt with hless | ⟨hsame, hrest⟩
  · have hone : value first * 1 ≤ value first * Nat.pow 256 rest.length :=
      Nat.mul_le_mul_left _ (Nat.pow_pos (by decide))
    have hsmaller := (lt_iff_value_lt hfirst).mp hless
    omega
  · have hone : 1 ≤ rest.length := by
      apply List.length_pos_iff.mpr
      rintro hnil
      rw [hnil] at hrest
      exact List.lt_irrefl [] hrest
    have hpow : Nat.pow 256 1 ≤ Nat.pow 256 rest.length := Nat.pow_le_pow_right (by decide) hone
    have hscaled : value first * Nat.pow 256 1 ≤ value first * Nat.pow 256 rest.length :=
      Nat.mul_le_mul_left _ hpow
    have h256 : Nat.pow 256 1 = 256 := rfl
    rw [h256] at hscaled
    rw [hsame]
    omega

end RawSeries.Bytes
