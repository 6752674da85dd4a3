import RawSeries.Proofs.Rounding

namespace RawSeries.Decimal

section Interval

variable {f : Format} {x : Magnitude} {q : ℚ}

theorem Magnitude.covers_iff_of_even (h : x.mantissa % 2 = 0) :
    x.Covers f q ↔ x.mantissa - x.gap f ≤ q / 2 ^ x.exponent ∧
      q / 2 ^ x.exponent ≤ x.mantissa + 1 / 2 :=
  ⟨fun hcovers => ⟨hcovers.below, hcovers.above⟩, fun ⟨hbelow, habove⟩ =>
    ⟨hbelow, habove, fun _ => h⟩⟩

theorem Magnitude.covers_iff_of_odd (h : x.mantissa % 2 ≠ 0) :
    x.Covers f q ↔ x.mantissa - x.gap f < q / 2 ^ x.exponent ∧
      q / 2 ^ x.exponent < x.mantissa + 1 / 2 := by
  refine ⟨fun hcovers => ⟨?_, ?_⟩, fun ⟨hbelow, habove⟩ => .of_lt hbelow habove⟩
  · exact lt_of_le_of_ne hcovers.below fun hend => h (hcovers.even (.inl hend.symm))
  · exact lt_of_le_of_ne hcovers.above fun hend => h (hcovers.even (.inr hend))

theorem Magnitude.interval_low (f : Format) (x : Magnitude) :
    ((x.interval f).low : ℚ) = max 0 (4 * (x.mantissa - x.gap f)) := by
  have hpow : 0 < 2 ^ (f.precision - 1) := Nat.two_pow_pos _
  rcases x.gap_cases f with ⟨hgap, hfirst⟩ | ⟨hgap, hfirst⟩
  · have hlow : (x.interval f).low = 4 * x.mantissa - 1 := if_pos hfirst
    have hone : (1 : ℚ) ≤ x.mantissa := by
      rw [hfirst.1]
      exact_mod_cast hpow
    rw [hgap, hlow, Nat.cast_sub (by omega), max_eq_right (by linarith)]
    push_cast
    ring
  · have hlow : (x.interval f).low = 4 * x.mantissa - 2 := if_neg hfirst
    rw [hgap, hlow]
    rcases Nat.eq_zero_or_pos x.mantissa with hzero | hpos
    · rw [hzero]
      norm_num
    · have hone : (1 : ℚ) ≤ x.mantissa := by exact_mod_cast hpos
      rw [Nat.cast_sub (by omega), max_eq_right (by linarith)]
      push_cast
      ring

theorem Magnitude.interval_high (f : Format) (x : Magnitude) :
    ((x.interval f).high : ℚ) = 4 * (x.mantissa + 1 / 2) := by
  simp only [Magnitude.interval]
  push_cast
  ring

theorem Interval.holds_iff_covers (x : Magnitude) (num : Nat) {den : Nat} (hden : 0 < den)
    (hq : (num : ℚ) / den = q / 2 ^ (x.exponent - 2)) :
    (x.interval f).holds num den = true ↔ x.Covers f q := by
  have hpos : (0 : ℚ) < den := by exact_mod_cast hden
  have hnonneg : (0 : ℚ) ≤ num / den := by positivity
  have hquarters : (num : ℚ) / den = 4 * (q / 2 ^ x.exponent) := by
    rw [hq, show x.exponent - 2 = x.exponent - 1 - 1 by omega, div_zpow_pred, div_zpow_pred]
    ring
  rw [hquarters] at hnonneg
  unfold Interval.holds
  split
  · rename_i hclosed
    have heven : x.mantissa % 2 = 0 := by simpa [Magnitude.interval] using hclosed
    rw [Magnitude.covers_iff_of_even heven]
    simp only [Bool.and_eq_true, decide_eq_true_eq]
    rw [← Nat.cast_le (α := ℚ), ← Nat.cast_le (α := ℚ), Nat.cast_mul, Nat.cast_mul,
      ← le_div_iff₀ hpos, ← div_le_iff₀ hpos, hquarters, x.interval_low f, x.interval_high f,
      max_le_iff]
    constructor
    · rintro ⟨⟨-, hbelow⟩, habove⟩
      exact ⟨by linarith, by linarith⟩
    · rintro ⟨hbelow, habove⟩
      exact ⟨⟨hnonneg, by linarith⟩, by linarith⟩
  · rename_i hopen
    have hodd : x.mantissa % 2 ≠ 0 := by simpa [Magnitude.interval] using hopen
    have hone : (1 : ℚ) ≤ x.mantissa := by
      exact_mod_cast Nat.pos_of_ne_zero fun hzero => hodd (by rw [hzero])
    have hgap := x.gap_le f
    rw [Magnitude.covers_iff_of_odd hodd]
    simp only [Bool.and_eq_true, decide_eq_true_eq]
    rw [← Nat.cast_lt (α := ℚ), ← Nat.cast_lt (α := ℚ), Nat.cast_mul, Nat.cast_mul,
      ← lt_div_iff₀ hpos, ← div_lt_iff₀ hpos, hquarters, x.interval_low f, x.interval_high f,
      max_lt_iff]
    constructor
    · rintro ⟨⟨-, hbelow⟩, habove⟩
      exact ⟨by linarith, by linarith⟩
    · rintro ⟨hbelow, habove⟩
      exact ⟨⟨by linarith, by linarith⟩, by linarith⟩

end Interval

theorem ten_zpow_le {a b : Int} (h : a ≤ b) : (10 : ℚ) ^ a ≤ 10 ^ b :=
  zpow_le_zpow_right₀ (by norm_num) h

theorem two_zpow_le_ten (n : Nat) : (2 : ℚ) ^ (3 * n : Int) ≤ 10 ^ (n : Int) := by
  rw [zpow_mul, zpow_natCast, zpow_natCast]
  exact pow_le_pow_left₀ (by norm_num) (by norm_num) n

theorem ten_zpow_neg_le (n : Nat) : (10 : ℚ) ^ (-(n : Int)) ≤ 2 ^ (-(3 * n) : Int) := by
  rw [zpow_neg, zpow_neg]
  exact inv_anti₀ (two_zpow_pos _) (two_zpow_le_ten n)

theorem Number.toRat_bounds {x : Number} (h : x.coefficient ≠ 0) :
    (10 : ℚ) ^ (x.exponent + (Numeral.digits x.coefficient).length - 1) ≤ x.toRat ∧
      x.toRat < 10 ^ (x.exponent + (Numeral.digits x.coefficient).length) := by
  have hlength : 0 < (Numeral.digits x.coefficient).length :=
    List.length_pos_iff.mpr (Numeral.digits_ne_nil _)
  have hpos : (0 : ℚ) < 10 ^ x.exponent := by positivity
  have hleast : (10 : ℚ) ^ (((Numeral.digits x.coefficient).length - 1 : Nat) : Int) ≤
      x.coefficient := by
    exact_mod_cast Numeral.pow_length_le (Nat.pos_of_ne_zero h)
  have hgreatest : (x.coefficient : ℚ) <
      10 ^ ((Numeral.digits x.coefficient).length : Int) := by
    exact_mod_cast Numeral.lt_pow_length x.coefficient
  constructor
  · calc (10 : ℚ) ^ (x.exponent + (Numeral.digits x.coefficient).length - 1)
        = 10 ^ (((Numeral.digits x.coefficient).length - 1 : Nat) : Int) * 10 ^ x.exponent := by
          rw [← zpow_add₀ (by norm_num)]
          congr 1
          omega
      _ ≤ x.toRat := mul_le_mul_of_nonneg_right hleast hpos.le
  · rw [zpow_add₀ (by norm_num), mul_comm]
    exact mul_lt_mul_of_pos_right hgreatest hpos

section Number

variable {f : Format} {x : Number}

theorem Number.round?_large (hf : f.IsBounded) {top : Int} (htop : 400 < top)
    (h : (10 : ℚ) ^ (top - 1) ≤ x.toRat) : f.round? x.quotient.1 x.quotient.2 = none := by
  have hbits := hf.top
  rw [f.round?_eq_none_iff hf _ x.quotient_den_pos, x.quotient_ratio]
  calc ((2 : ℚ) ^ f.precision - 1 / 2) * 2 ^ f.highest ≤ 2 ^ f.precision * 2 ^ f.highest :=
        mul_le_mul_of_nonneg_right (by linarith) (two_zpow_pos _).le
    _ = 2 ^ ((f.precision : Int) + f.highest) := two_pow_mul _ _
    _ ≤ 2 ^ (3 * (400 : Nat) : Int) := two_zpow_le (by omega)
    _ ≤ 10 ^ ((400 : Nat) : Int) := two_zpow_le_ten 400
    _ ≤ 10 ^ (top - 1) := ten_zpow_le (by omega)
    _ ≤ x.toRat := h

theorem Number.round?_small (hf : f.IsBounded) {top : Int} (htop : top < -400)
    (h : x.toRat < 10 ^ top) : f.round? x.quotient.1 x.quotient.2 = some ⟨0, f.lowest⟩ := by
  have hbits := hf.bottom
  have hnonneg : 0 ≤ x.toRat := by
    unfold Number.toRat
    positivity
  have hless : x.toRat < 2 ^ (-(3 * (401 : Nat)) : Int) :=
    h.trans_le ((ten_zpow_le (by omega)).trans (ten_zpow_neg_le 401))
  rw [f.round?_eq_some_iff hf _ x.quotient_den_pos, x.quotient_ratio]
  refine ⟨Magnitude.isOf_zero hf, Magnitude.covers_of_near ?_⟩
  rw [Magnitude.toRat_zero rfl, sub_zero, abs_of_nonneg hnonneg]
  calc 4 * x.toRat < 2 ^ 2 * 2 ^ (-(3 * (401 : Nat)) : Int) := by linarith
    _ = 2 ^ ((2 : Nat) + -(3 * (401 : Nat)) : Int) := two_pow_mul _ _
    _ ≤ 2 ^ f.lowest := two_zpow_le (by omega)

/-- A decimal is rounded as its quotient is, also where no power of ten is computed. -/
theorem Number.round?_eq (hf : f.IsBounded) (x : Number) :
    x.round? f = f.round? x.quotient.1 x.quotient.2 := by
  unfold Number.round?
  split
  · rename_i hzero
    obtain ⟨c, e⟩ := x
    obtain rfl : c = 0 := hzero
    rw [(Number.quotient_zero e).1]
    rfl
  · rename_i hne
    obtain ⟨hlow, hhigh⟩ := Number.toRat_bounds hne
    dsimp only
    split
    · rename_i hlarge
      exact (Number.round?_large hf hlarge hlow).symm
    · split
      · rename_i hsmall
        exact (Number.round?_small hf hsmall hhigh).symm
      · rfl

theorem Number.round?_eq_some_iff (hf : f.IsBounded) (x : Number) (y : Magnitude) :
    x.round? f = some y ↔ y.IsOf f ∧ y.Covers f x.toRat := by
  rw [x.round?_eq hf, f.round?_eq_some_iff hf _ x.quotient_den_pos, x.quotient_ratio]

end Number

end RawSeries.Decimal
