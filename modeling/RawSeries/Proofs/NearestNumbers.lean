import RawSeries.Proofs.DecimalRounding

namespace RawSeries.Decimal.Magnitude

variable {f : Format} {x y : Magnitude} {q : ℚ} {e : Int}

theorem exists_units (h : e ≤ x.exponent) : ∃ n : Nat, x.toRat = n * 2 ^ e := by
  obtain ⟨k, hk⟩ := Int.le.dest h
  refine ⟨x.mantissa * 2 ^ k, ?_⟩
  rw [toRat, ← hk, add_comm, two_zpow_add, zpow_natCast]
  push_cast
  ring

theorem add_unit_le (hx : e ≤ x.exponent) (hy : e ≤ y.exponent) (h : x.toRat < y.toRat) :
    x.toRat + 2 ^ e ≤ y.toRat := by
  have hpos := two_zpow_pos e
  obtain ⟨m, hm⟩ := exists_units hx
  obtain ⟨n, hn⟩ := exists_units hy
  rw [hm, hn] at h ⊢
  have hless : m + 1 ≤ n := by
    have hcast : (m : ℚ) < n := lt_of_mul_lt_mul_right h hpos.le
    exact_mod_cast hcast
  have hcast : ((m : ℚ) + 1) * 2 ^ e ≤ n * 2 ^ e :=
    mul_le_mul_of_nonneg_right (by exact_mod_cast hless) hpos.le
  linarith

theorem IsFull.pow_le (hx : x.IsFull f) (h : f.lowest < x.exponent) :
    2 ^ (f.precision - 1) * 2 ^ x.exponent ≤ x.toRat := by
  have hfull : (2 : ℚ) ^ (f.precision - 1) ≤ x.mantissa := by
    exact_mod_cast hx.full.resolve_left (by omega)
  exact mul_le_mul_of_nonneg_right hfull (two_zpow_pos _).le

theorem IsFull.lt_pow (hf : f.IsBounded) (hy : y.IsFull f) (h : y.exponent < e) :
    y.toRat < 2 ^ (f.precision - 1) * 2 ^ e := by
  have hprecise := hf.precise
  have hsize : (y.mantissa : ℚ) < 2 ^ f.precision := by exact_mod_cast hy.size
  calc y.toRat < 2 ^ f.precision * 2 ^ y.exponent :=
        mul_lt_mul_of_pos_right hsize (two_zpow_pos _)
    _ ≤ 2 ^ (f.precision - 1) * 2 ^ e := by
        rw [two_pow_mul, two_pow_mul]
        exact two_zpow_le (by omega)

theorem IsFull.add_place_le (hf : f.IsBounded) (hx : x.IsFull f) (hy : y.IsFull f)
    (h : x.toRat < y.toRat) : x.toRat + 2 ^ x.exponent ≤ y.toRat := by
  refine add_unit_le le_rfl (not_lt.mp fun hless => ?_) h
  have hleast := hy.least
  linarith [hx.pow_le (by omega), hy.lt_pow hf hless]

theorem IsFull.add_gap_le (hf : f.IsBounded) (hx : x.IsFull f) (hy : y.IsFull f)
    (h : y.toRat < x.toRat) : y.toRat + 2 * x.gap f * 2 ^ x.exponent ≤ x.toRat := by
  have hpos := two_zpow_pos x.exponent
  have hleast := hy.least
  rcases le_or_gt x.exponent y.exponent with hle | hless
  · have hunit := add_unit_le hle le_rfl h
    linarith [mul_le_mul_of_nonneg_right (x.gap_le f) hpos.le]
  · have hfull := hx.full.resolve_left (by omega)
    have hbelow := hy.lt_pow hf hless
    rcases x.gap_cases f with ⟨hgap, hfirst, -⟩ | ⟨hgap, hinner⟩
    · -- below a power of two the places are half as large, or smaller still
      rw [hgap]
      have hhalf : (2 : ℚ) ^ x.exponent = 2 * 2 ^ (x.exponent - 1) := by
        rw [zpow_sub_one₀ two_ne_zero]
        ring
      rcases eq_or_lt_of_le (Int.le_sub_one_of_lt hless) with heq | hsmall
      · have hunit := add_unit_le heq.ge (by omega) h
        linarith
      · have hsmaller := hy.lt_pow hf hsmall
        have hpow := hx.pow_le (by omega)
        have hone : (1 : ℚ) ≤ 2 ^ (f.precision - 1) := one_le_pow₀ one_le_two
        have hscaled := mul_le_mul_of_nonneg_right hone (two_zpow_pos (x.exponent - 1)).le
        rw [hhalf] at hpow ⊢
        linarith
    · have hmore : (2 : ℚ) ^ (f.precision - 1) + 1 ≤ x.mantissa := by
        have hne : 2 ^ (f.precision - 1) ≠ x.mantissa :=
          fun heq => hinner ⟨heq.symm, by omega⟩
        exact_mod_cast lt_of_le_of_ne hfull hne
      have hscaled := mul_le_mul_of_nonneg_right hmore hpos.le
      have hvalue : x.toRat = x.mantissa * 2 ^ x.exponent := rfl
      rw [hgap, hvalue]
      linarith

theorem Covers.bounds (h : x.Covers f q) : x.toRat - x.gap f * 2 ^ x.exponent ≤ q ∧
    q ≤ x.toRat + 1 / 2 * 2 ^ x.exponent := by
  have hpos := two_zpow_pos x.exponent
  have hvalue : x.toRat = x.mantissa * 2 ^ x.exponent := rfl
  rw [hvalue, ← sub_mul, ← add_mul, ← le_div_iff₀ hpos, ← div_le_iff₀ hpos]
  exact ⟨h.below, h.above⟩

/-- No number of a format is nearer to a quotient than the one in whose interval it lies, and when
another one is as near, the mantissa is even. -/
theorem Covers.nearest (hf : f.IsBounded) (hx : x.IsFull f) (h : x.Covers f q) (hy : y.IsFull f) :
    |q - x.toRat| ≤ |q - y.toRat| ∧
      (y.toRat ≠ x.toRat → |q - y.toRat| = |q - x.toRat| → x.mantissa % 2 = 0) := by
  have hpos := two_zpow_pos x.exponent
  have hvalue : x.toRat = x.mantissa * 2 ^ x.exponent := rfl
  obtain ⟨hbelow, habove⟩ := h.bounds
  have hleast := mul_le_mul_of_nonneg_right (x.le_gap f) hpos.le
  have hgreatest := mul_le_mul_of_nonneg_right (x.gap_le f) hpos.le
  rcases lt_trichotomy x.toRat y.toRat with hless | heq | hmore
  · have hstep := hx.add_place_le hf hy hless
    rw [abs_sub_comm q y.toRat, abs_of_nonneg (show 0 ≤ y.toRat - q by linarith)]
    refine ⟨abs_le.mpr ⟨by linarith, by linarith⟩, fun _ htie => h.even (.inr ?_)⟩
    rw [div_eq_iff hpos.ne', add_mul, ← hvalue]
    rcases abs_cases (q - x.toRat) with ⟨habs, -⟩ | ⟨habs, -⟩ <;> linarith
  · rw [heq]
    exact ⟨le_rfl, fun hne => absurd rfl hne⟩
  · have hstep := hx.add_gap_le hf hy hmore
    rw [abs_of_nonneg (show 0 ≤ q - y.toRat by linarith)]
    refine ⟨abs_le.mpr ⟨by linarith, by linarith⟩, fun _ htie => h.even (.inl ?_)⟩
    rw [div_eq_iff hpos.ne', sub_mul, ← hvalue]
    rcases abs_cases (q - x.toRat) with ⟨habs, -⟩ | ⟨habs, -⟩ <;> linarith

end RawSeries.Decimal.Magnitude
