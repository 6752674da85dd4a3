import RawSeries.Proofs.DecimalRounding

namespace RawSeries.Decimal

theorem Number.trim_toRat (x : Number) : x.trim.toRat = x.toRat := by
  fun_induction Number.trim x with
  | case1 x hx ih =>
      have hsplit : (x.coefficient : ℚ) = 10 * (x.coefficient / 10 : Nat) := by
        have hnat : x.coefficient = 10 * (x.coefficient / 10) := by omega
        exact_mod_cast hnat
      rw [ih, Number.toRat, Number.toRat, hsplit, zpow_add_one₀ (by norm_num)]
      ring
  | case2 x hx => rfl

/-- The coefficient of the greatest decimal of a grid that is not above a quotient. -/
def gridBelow (num den : Nat) (e : Int) : Nat :=
  (shrink 10 num den e).1 / (shrink 10 num den e).2

section

variable {f : Format} {x : Magnitude}

theorem onGrid?_tries (f : Format) (x : Magnitude) (e : Int) :
    ∃ (reads : Nat → Bool) (first second : Nat),
      (∀ c, reads c = true ↔ x.Covers f (c * 10 ^ e)) ∧
      (first = gridBelow x.quotient.1 x.quotient.2 e ∧ second = first + 1 ∨
        second = gridBelow x.quotient.1 x.quotient.2 e ∧ first = second + 1) ∧
      onGrid? f x e = if reads first then some ⟨first, e⟩
        else if reads second then some ⟨second, e⟩ else none := by
  have hreads (c : Nat) : (x.interval f).holds
      (shrink 2 (Number.quotient ⟨c, e⟩).1 (Number.quotient ⟨c, e⟩).2 (x.exponent - 2)).1
      (shrink 2 (Number.quotient ⟨c, e⟩).1 (Number.quotient ⟨c, e⟩).2 (x.exponent - 2)).2 = true ↔
        x.Covers f (c * 10 ^ e) := by
    have hden := shrink_pos two_pos (Number.quotient ⟨c, e⟩).1 (Number.quotient_den_pos ⟨c, e⟩)
      (x.exponent - 2)
    refine Interval.holds_iff_covers x _ hden ?_
    rw [shrink_ratio, Number.quotient_ratio, Nat.cast_ofNat]
    rfl
  refine ⟨_, _, _, hreads, ?_, rfl⟩
  by_cases hupper : if 2 * ((shrink 10 x.quotient.1 x.quotient.2 e).1 %
      (shrink 10 x.quotient.1 x.quotient.2 e).2) = (shrink 10 x.quotient.1 x.quotient.2 e).2
    then gridBelow x.quotient.1 x.quotient.2 e % 2 = 1
    else (shrink 10 x.quotient.1 x.quotient.2 e).2 <
      2 * ((shrink 10 x.quotient.1 x.quotient.2 e).1 % (shrink 10 x.quotient.1 x.quotient.2 e).2)
  · exact .inr ⟨if_pos hupper, (if_pos hupper).trans (congrArg (· + 1) (if_pos hupper).symm)⟩
  · exact .inl ⟨if_neg hupper, (if_neg hupper).trans (congrArg (· + 1) (if_neg hupper).symm)⟩

theorem onGrid?_covers {e : Int} {number : Number} (h : onGrid? f x e = some number) :
    x.Covers f number.toRat := by
  obtain ⟨reads, first, second, hreads, -, htries⟩ := onGrid?_tries f x e
  rw [htries] at h
  split at h
  · rename_i hfirst
    cases h
    exact (hreads first).mp hfirst
  · split at h
    · rename_i hsecond
      cases h
      exact (hreads second).mp hsecond
    · cases h

/-- The decimal of a grid that is nearest to a quotient, of two the even one. -/
def gridNearest (num den : Nat) (e : Int) : Number :=
  ⟨roundEven (shrink 10 num den e).1 (shrink 10 num den e).2, e⟩

theorem rounds_gridNearest (num : Nat) {den : Nat} (hden : 0 < den) (e : Int) :
    Rounds (num / den / 10 ^ e) (gridNearest num den e).coefficient := by
  have hrounds := rounds_shrink (show 0 < 10 by decide) num hden e
  rwa [Nat.cast_ofNat] at hrounds

theorem grid_sub (num den c : Nat) (e : Int) :
    (c : ℚ) * 10 ^ e - num / den = (c - num / den / 10 ^ e) * 10 ^ e := by
  rw [sub_mul, div_mul_cancel₀ _ (by positivity)]

theorem gridNearest_near (num : Nat) {den : Nat} (hden : 0 < den) (e : Int) :
    2 * |(gridNearest num den e).toRat - num / den| ≤ 10 ^ e := by
  have hpos : (0 : ℚ) < 10 ^ e := by positivity
  have hrounds := rounds_gridNearest num hden e
  have hvalue : (gridNearest num den e).toRat =
      (gridNearest num den e).coefficient * 10 ^ e := rfl
  have hhalf : |((gridNearest num den e).coefficient : ℚ) - num / den / 10 ^ e| ≤ 1 / 2 := by
    rw [abs_le]
    constructor <;> linarith [hrounds.below, hrounds.above]
  rw [hvalue, grid_sub, abs_mul, abs_of_pos hpos]
  linarith [mul_le_mul_of_nonneg_right hhalf hpos.le]

theorem significant_near (count num : Nat) {den : Nat} (hden : 0 < den) :
    2 * |(significant count num den).toRat - num / den| ≤
      10 ^ (leadingPlace num den - count + 1) :=
  gridNearest_near num hden _

theorem ten_zpow_leadingPlace {num den : Nat} (hnum : 0 < num) (hden : 0 < den) :
    (10 : ℚ) ^ leadingPlace num den ≤ num / den := by
  have hpos : (0 : ℚ) < 10 ^ leadingPlace num den := by positivity
  have hbits : (0 : ℚ) < (shrink 10 num den (leadingPlace num den)).2 := by
    exact_mod_cast shrink_pos (Nat.succ_pos 9) num hden (leadingPlace num den)
  have hone : (1 : ℚ) ≤ num / den / 10 ^ leadingPlace num den := by
    have hratio := shrink_ratio 10 num den (leadingPlace num den)
    rw [Nat.cast_ofNat] at hratio
    rw [← hratio, le_div_iff₀ hbits, one_mul]
    exact_mod_cast shrink_leadingPlace hnum hden
  rwa [le_div_iff₀ hpos, one_mul] at hone

/-- Each digit after the first one brings a decimal ten times nearer. -/
theorem significant_relative (hne : x.mantissa ≠ 0) (count : Nat) :
    2 * |(significant (count + 1) x.quotient.1 x.quotient.2).toRat - x.toRat| ≤
      x.toRat / 10 ^ count := by
  obtain ⟨hnum, hden⟩ := x.quotient_pos hne
  have hnear := significant_near (count + 1) x.quotient.1 hden
  have hplace := ten_zpow_leadingPlace hnum hden
  have hscale : leadingPlace x.quotient.1 x.quotient.2 - (count + 1 : Nat) + 1 =
      leadingPlace x.quotient.1 x.quotient.2 - count := by omega
  rw [x.quotient_ratio] at hnear hplace
  rw [hscale, zpow_sub₀ (by norm_num), zpow_natCast] at hnear
  exact hnear.trans (div_le_div_of_nonneg_right hplace (by positivity))

theorem significant_covers (hprecision : f.precision ≤ 53) (hx : x.IsFull f)
    (hne : x.mantissa ≠ 0) : x.Covers f (significant 18 x.quotient.1 x.quotient.2).toRat := by
  have hnear : 2 * |(significant 18 x.quotient.1 x.quotient.2).toRat - x.toRat| ≤
      x.toRat / 10 ^ 17 := significant_relative hne 17
  have hpos := two_zpow_pos x.exponent
  have hsize : (x.mantissa : ℚ) < 2 ^ 53 := by
    exact_mod_cast hx.size.trans_le (Nat.pow_le_pow_right two_pos hprecision)
  refine Magnitude.covers_of_near ?_
  calc 4 * |(significant 18 x.quotient.1 x.quotient.2).toRat - x.toRat|
      ≤ 2 * (x.toRat / 10 ^ 17) := by linarith
    _ = x.mantissa * (2 / 10 ^ 17) * 2 ^ x.exponent := by
        rw [Magnitude.toRat]
        ring
    _ < 1 * 2 ^ x.exponent := mul_lt_mul_of_pos_right (by linarith) hpos
    _ = 2 ^ x.exponent := one_mul _

theorem shortestFrom_covers (hprecision : f.precision ≤ 53) (hx : x.IsFull f)
    (hne : x.mantissa ≠ 0) (tries : Nat) {count : Nat} (hcount : count + tries = 18) :
    x.Covers f (shortestFrom f x tries count).toRat := by
  induction tries generalizing count with
  | zero =>
      obtain rfl : count = 18 := hcount
      exact significant_covers hprecision hx hne
  | succ tries ih =>
      rw [shortestFrom]
      split
      · rename_i number hnumber
        exact onGrid?_covers hnumber
      · exact ih (by omega)

theorem shortest_covers (hprecision : f.precision ≤ 53) (hx : x.IsFull f) :
    x.Covers f (shortest f x).toRat := by
  rw [shortest]
  split
  · rename_i hzero
    have hvalue : Number.toRat ⟨0, 0⟩ = x.toRat := by
      rw [Magnitude.toRat_zero hzero, Number.toRat, Nat.cast_zero, zero_mul]
    rw [hvalue]
    exact x.covers_toRat f
  · rename_i hne
    rw [Number.trim_toRat]
    exact shortestFrom_covers hprecision hx hne 17 rfl

end

end RawSeries.Decimal
