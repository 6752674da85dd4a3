import RawSeries.Proofs.DigitCounts
import RawSeries.Proofs.FloatTexts
import RawSeries.Proofs.NearestNumbers

namespace RawSeries.Decimal

/-- A quotient is rounded to a double, and this one to the four-byte number. -/
def Magnitude.Reads (x : Magnitude) (q : ℚ) : Prop :=
  ∃ wide : Magnitude, wide.IsOf double ∧ wide.Covers double q ∧ x.Covers single wide.toRat

section Format

variable {f : Format} {x y : Magnitude} {p q : ℚ}

theorem Magnitude.Covers.pos (h : x.Covers f q) (hne : x.mantissa ≠ 0) : 0 < q := by
  have hone : (1 : ℚ) ≤ x.mantissa := by exact_mod_cast Nat.pos_of_ne_zero hne
  have hbelow : 0 < q / 2 ^ x.exponent := by linarith [h.below, x.gap_le f]
  exact (div_pos_iff_of_pos_right (two_zpow_pos x.exponent)).mp hbelow

theorem Magnitude.Covers.le_top (hx : x.IsOf f) (h : x.Covers f q) :
    q ≤ ((2 : ℚ) ^ f.precision - 1 / 2) * 2 ^ f.highest := by
  have hsize : (x.mantissa : ℚ) + 1 ≤ 2 ^ f.precision := by exact_mod_cast hx.size
  calc q ≤ (x.mantissa + 1 / 2) * 2 ^ x.exponent := (div_le_iff₀ (two_zpow_pos _)).mp h.above
    _ ≤ ((2 : ℚ) ^ f.precision - 1 / 2) * 2 ^ f.highest :=
        mul_le_mul (by linarith) (two_zpow_le hx.greatest) (two_zpow_pos _).le
          (by linarith [(Nat.cast_nonneg x.mantissa : (0 : ℚ) ≤ x.mantissa)])

theorem Format.exists_covers (hf : f.IsBounded) (hq : 0 ≤ q)
    (h : q < ((2 : ℚ) ^ f.precision - 1 / 2) * 2 ^ f.highest) :
    ∃ y : Magnitude, y.IsOf f ∧ y.Covers f q := by
  have hvalue : (q.num.toNat : ℚ) / q.den = q := by
    have hnum : ((q.num.toNat : Int) : ℚ) = q.num := by
      rw [Int.toNat_of_nonneg (Rat.num_nonneg.mpr hq)]
    rw [← Int.cast_natCast, hnum, Rat.num_div_den]
  cases hround : f.round? q.num.toNat q.den with
  | none =>
      rw [f.round?_eq_none_iff hf _ q.den_pos, hvalue] at hround
      exact absurd h hround.not_gt
  | some y =>
      rw [f.round?_eq_some_iff hf _ q.den_pos, hvalue] at hround
      exact ⟨y, hround⟩

theorem Magnitude.Covers.toRat_le (hf : f.IsBounded) (hx : x.IsFull f) (hy : y.IsFull f)
    (hp : x.Covers f p) (hq : y.Covers f q) (h : p < q) : x.toRat ≤ y.toRat := by
  refine not_lt.mp fun hless => ?_
  have hleft := (hp.nearest hf hx hy).1
  have hright := (hq.nearest hf hy hx).1
  have hafter : x.toRat + y.toRat ≤ 2 * p := by
    refine not_lt.mp fun hbefore => ?_
    rw [abs_sub_comm p x.toRat, abs_of_pos (by linarith)] at hleft
    exact absurd (abs_lt.mpr ⟨by linarith, by linarith⟩) hleft.not_gt
  rw [abs_of_pos (show 0 < q - y.toRat by linarith)] at hright
  exact absurd (abs_lt.mpr ⟨by linarith, by linarith⟩) hright.not_gt

theorem Magnitude.IsFull.isPlace (hx : x.IsFull f) : f.IsPlace x.toRat x.exponent := by
  have hratio : x.toRat / 2 ^ x.exponent = x.mantissa :=
    mul_div_cancel_right₀ _ (two_zpow_pos x.exponent).ne'
  refine ⟨hx.least, ?_, hx.full.imp_right fun hfull => ?_⟩
  · rw [hratio]
    exact_mod_cast hx.size
  · rw [hratio]
    exact_mod_cast hfull

theorem Magnitude.Covers.mirror {c : Nat} (hx : x.gap f = 1 / 2) (hy : y.gap f = 1 / 2)
    (he : y.exponent = x.exponent) (hc : x.mantissa + y.mantissa = 2 * c) (h : x.Covers f q) :
    y.Covers f (2 * (c * 2 ^ x.exponent) - q) := by
  have hbelow := h.below
  have habove := h.above
  have heven := h.even
  have hsum : (x.mantissa : ℚ) + y.mantissa = 2 * c := by exact_mod_cast hc
  have hratio : (2 * (c * 2 ^ x.exponent) - q) / 2 ^ y.exponent = 2 * c - q / 2 ^ x.exponent := by
    rw [he, sub_div, ← mul_assoc, mul_div_cancel_right₀ _ (two_zpow_pos x.exponent).ne']
  rw [hx] at hbelow heven
  refine ⟨?_, ?_, fun hend => ?_⟩
  · rw [hy, hratio]
    linarith
  · rw [hratio]
    linarith
  · rw [hy, hratio] at hend
    have hsame : x.mantissa % 2 = 0 := by
      rcases hend with hend | hend
      · exact heven (.inr (by linarith))
      · exact heven (.inl (by linarith))
    omega

end Format

section Reads

variable {x : Magnitude} {q : ℚ}

theorem Magnitude.Reads.pos (h : x.Reads q) (hne : x.mantissa ≠ 0) : 0 < q := by
  obtain ⟨wide, hwide, hcovers, hnarrow⟩ := h
  refine hcovers.pos fun hzero => ?_
  exact absurd (hnarrow.pos hne) (by rw [Magnitude.toRat_zero hzero]; exact lt_irrefl 0)

theorem Magnitude.reads_toRat (hx : x.IsOf single) : x.Reads x.toRat := by
  obtain ⟨wide, hwide, hvalue⟩ := Binary.exists_wide hx
  refine ⟨wide, hwide, ?_, ?_⟩
  · rw [← hvalue]
    exact wide.covers_toRat double
  · rw [hvalue]
    exact x.covers_toRat single

/-- What lies between two quotients that are read as a number is read as the number. -/
theorem Magnitude.reads_ordConnected (hne : x.mantissa ≠ 0) : {q | x.Reads q}.OrdConnected := by
  refine ⟨fun a ha b hb q hq => ?_⟩
  have hpos : 0 < a := Reads.pos ha hne
  obtain ⟨left, hleft, hcovers, hnarrow⟩ := ha
  obtain ⟨right, hright, hcovers', hnarrow'⟩ := hb
  rcases eq_or_lt_of_le hq.1 with rfl | hless
  · exact ⟨left, hleft, hcovers, hnarrow⟩
  rcases eq_or_lt_of_le hq.2 with rfl | hmore
  · exact ⟨right, hright, hcovers', hnarrow'⟩
  obtain ⟨wide, hwide, hbetween⟩ := double.exists_covers double_isBounded (hpos.trans hless).le
    (hmore.trans_le (hcovers'.le_top hright))
  -- rounding keeps the order, so the double is between those of the ends
  refine ⟨wide, hwide, hbetween, (x.covers_ordConnected single).out hnarrow hnarrow' ⟨?_, ?_⟩⟩
  · exact hcovers.toRat_le double_isBounded hleft.toIsFull hwide.toIsFull hbetween hless
  · exact hbetween.toRat_le double_isBounded hwide.toIsFull hright.toIsFull hcovers' hmore

theorem exists_double_near (hx : x.IsOf single) (hne : x.mantissa ≠ 0)
    (h : 8 * |q - x.toRat| < 2 ^ x.exponent) :
    ∃ wide : Magnitude, wide.IsOf double ∧ wide.Covers double q := by
  have hone : (1 : ℚ) ≤ x.mantissa := by exact_mod_cast Nat.pos_of_ne_zero hne
  have hpos := two_zpow_pos x.exponent
  have hleast : (2 : ℚ) ^ x.exponent ≤ x.toRat := by
    simpa [Magnitude.toRat] using mul_le_mul_of_nonneg_right hone hpos.le
  obtain ⟨hlow, hhigh⟩ := abs_le.mp (show |q - x.toRat| ≤ 2 ^ x.exponent / 8 by linarith)
  have hsize : (x.mantissa : ℚ) < 2 ^ 24 := by exact_mod_cast hx.size
  have hplace : (2 : ℚ) ^ x.exponent ≤ 2 ^ (104 : Int) := two_zpow_le hx.greatest
  refine double.exists_covers double_isBounded (by linarith) ?_
  calc q < (2 ^ 24 + 1) * 2 ^ x.exponent := by
        have hscaled := mul_lt_mul_of_pos_right hsize hpos
        rw [Magnitude.toRat] at hhigh
        linarith
    _ ≤ (2 ^ 24 + 1) * 2 ^ (104 : Int) := mul_le_mul_of_nonneg_left hplace (by norm_num)
    _ ≤ ((2 : ℚ) ^ 53 - 1 / 2) * 2 ^ (971 : Int) :=
        mul_le_mul (by norm_num) (two_zpow_le (by norm_num)) (by positivity) (by norm_num)

theorem Magnitude.reads_of_near (hx : x.IsOf single) (hne : x.mantissa ≠ 0)
    (h : 8 * |q - x.toRat| < 2 ^ x.exponent) : x.Reads q := by
  obtain ⟨equal, hequal, hvalue⟩ := Binary.exists_wide hx
  obtain ⟨wide, hwide, hcovers⟩ := exists_double_near hx hne h
  refine ⟨wide, hwide, hcovers, Magnitude.covers_of_near ?_⟩
  have hnearest := (hcovers.nearest double_isBounded hwide.toIsFull hequal.toIsFull).1
  rw [hvalue] at hnearest
  calc 4 * |wide.toRat - x.toRat| ≤ 4 * (|wide.toRat - q| + |q - x.toRat|) := by
        linarith [abs_sub_le wide.toRat q x.toRat]
    _ ≤ 8 * |q - x.toRat| := by
        rw [abs_sub_comm wide.toRat q]
        linarith
    _ < 2 ^ x.exponent := h

theorem Magnitude.Reads.near (hx : x.IsOf single) (hne : x.mantissa ≠ 0) (h : x.Reads q) :
    |q - x.toRat| < 2 ^ x.exponent := by
  obtain ⟨wide, hwide, hcovers, hnarrow⟩ := h
  have hpos := two_zpow_pos x.exponent
  have hbits : single.lowest = -149 ∧ single.highest = 104 := by decide
  have hleast := hx.least
  have hgreatest := hx.greatest
  have hsize : x.mantissa < 2 ^ 24 := hx.size
  have hgap := mul_le_mul_of_nonneg_right (x.gap_le single) hpos.le
  obtain ⟨hbelow, habove⟩ := hnarrow.bounds
  -- the numbers one place up and down are doubles, and no quotient beyond them is rounded within
  have hnearest {n : Nat} (hn : n ≤ x.mantissa + 1) :
      |q - wide.toRat| ≤ |q - n * 2 ^ x.exponent| := by
    obtain ⟨y, hy, hvalue⟩ := Binary.exists_double (n := n) (e := x.exponent) (by omega)
      (by omega) (by omega)
    rw [← hvalue]
    exact (hcovers.nearest double_isBounded hwide.toIsFull hy.toIsFull).1
  rw [abs_lt]
  constructor
  · refine not_le.mp fun hless => ?_
    have hnext := hnearest (Nat.sub_le x.mantissa 1 |>.trans (Nat.le_succ _))
    have hvalue : ((x.mantissa - 1 : Nat) : ℚ) * 2 ^ x.exponent = x.toRat - 2 ^ x.exponent := by
      rw [Nat.cast_sub (Nat.pos_of_ne_zero hne), Magnitude.toRat, Nat.cast_one, sub_mul, one_mul]
    rw [hvalue, abs_sub_comm q wide.toRat, abs_of_pos (by linarith), abs_sub_comm,
      abs_of_nonneg (by linarith)] at hnext
    linarith
  · refine not_le.mp fun hmore => ?_
    have hnext := hnearest le_rfl
    have hvalue : ((x.mantissa + 1 : Nat) : ℚ) * 2 ^ x.exponent = x.toRat + 2 ^ x.exponent := by
      rw [Nat.cast_succ, Magnitude.toRat, add_mul, one_mul]
    rw [hvalue, abs_of_pos (by linarith), abs_of_nonneg (by linarith)] at hnext
    linarith

theorem exists_inner_shift {m : Nat} (hne : m ≠ 0) (hpower : ∀ j, m ≠ 2 ^ j) (hm : m < 2 ^ 53) :
    ∃ k ≤ 52, 2 ^ 52 + 2 ^ k ≤ m * 2 ^ k ∧ m * 2 ^ k + 2 ^ k ≤ 2 ^ 53 := by
  obtain ⟨k, hk, hfirst, hlast⟩ := Binary.exists_shift hne hm
  have hpow {n : Nat} (hn : k ≤ n) : 2 ^ (n - k) * 2 ^ k = 2 ^ n := by
    rw [← Nat.pow_add, Nat.sub_add_cancel hn]
  refine ⟨k, hk, ?_, ?_⟩
  · rw [← hpow hk] at hfirst
    have hless : 2 ^ (52 - k) < m :=
      lt_of_le_of_ne (Nat.le_of_mul_le_mul_right hfirst (Nat.two_pow_pos k)) (hpower _).symm
    rw [← hpow hk, ← Nat.succ_mul]
    exact Nat.mul_le_mul_right _ hless
  · have hnext : k ≤ 53 := by omega
    rw [← hpow hnext] at hlast
    rw [← hpow hnext, ← Nat.succ_mul]
    exact Nat.mul_le_mul_right _ (Nat.lt_of_mul_lt_mul_right hlast)

theorem Magnitude.Covers.units {wide : Magnitude} {k : Nat} (hwide : wide.IsOf double)
    (h : x.Covers single wide.toRat) (hleast : double.lowest ≤ x.exponent - k)
    (hlow : 2 ^ 52 + 2 ^ k ≤ x.mantissa * 2 ^ k) (hhigh : x.mantissa * 2 ^ k + 2 ^ k ≤ 2 ^ 53) :
    wide.exponent = x.exponent - k ∧ 2 * (x.mantissa * 2 ^ k) ≤ 2 * wide.mantissa + 2 ^ k ∧
      2 * wide.mantissa ≤ 2 * (x.mantissa * 2 ^ k) + 2 ^ k := by
  have hhalf : (0 : ℚ) < 2 ^ k / 2 := by positivity
  have hplace : (2 : ℚ) ^ x.exponent = 2 ^ k * 2 ^ (x.exponent - k) := by
    rw [two_pow_mul]
    congr 1
    omega
  have hbelow : (x.mantissa : ℚ) * 2 ^ k - 2 ^ k / 2 ≤ wide.toRat / 2 ^ (x.exponent - k) := by
    have hend := h.below
    rw [hplace, div_mul_eq_div_div_swap, le_div_iff₀ (by positivity)] at hend
    linarith [mul_le_mul_of_nonneg_right (x.gap_le single) (show (0 : ℚ) ≤ 2 ^ k by positivity)]
  have habove : wide.toRat / 2 ^ (x.exponent - k) ≤ x.mantissa * 2 ^ k + 2 ^ k / 2 := by
    have hend := h.above
    rw [hplace, div_mul_eq_div_div_swap, div_le_iff₀ (by positivity)] at hend
    linarith
  have hexponent : wide.exponent = x.exponent - k := by
    have hleft : (2 : ℚ) ^ 52 + 2 ^ k ≤ x.mantissa * 2 ^ k := by exact_mod_cast hlow
    have hright : (x.mantissa : ℚ) * 2 ^ k + 2 ^ k ≤ 2 ^ 53 := by exact_mod_cast hhigh
    refine hwide.toIsFull.isPlace.unique double_isBounded ⟨hleast, ?_, .inr ?_⟩
    · show wide.toRat / 2 ^ (x.exponent - k) < 2 ^ 53
      linarith
    · show (2 : ℚ) ^ 52 ≤ wide.toRat / 2 ^ (x.exponent - k)
      linarith
  have hmantissa : wide.toRat / 2 ^ (x.exponent - k) = wide.mantissa := by
    rw [← hexponent]
    exact mul_div_cancel_right₀ _ (two_zpow_pos _).ne'
  rw [hmantissa] at hbelow habove
  have hfew : 2 * ((x.mantissa : ℚ) * 2 ^ k) ≤ 2 * wide.mantissa + 2 ^ k := by linarith
  have hmany : 2 * (wide.mantissa : ℚ) ≤ 2 * (x.mantissa * 2 ^ k) + 2 ^ k := by linarith
  exact ⟨hexponent, by exact_mod_cast hfew, by exact_mod_cast hmany⟩

/-- Around a number that is no power of two, what is read as the number is the same on both
sides. -/
theorem Magnitude.Reads.mirror (hx : x.IsOf single) (hne : x.mantissa ≠ 0)
    (hpower : ∀ j, x.mantissa ≠ 2 ^ j) (h : x.Reads q) : x.Reads (2 * x.toRat - q) := by
  obtain ⟨wide, hwide, hcovers, hnarrow⟩ := h
  have hbits : single.lowest = -149 ∧ double.lowest = -1074 := by decide
  have hleast := hx.least
  have hgreatest := hwide.greatest
  obtain ⟨k, hk, hlow, hhigh⟩ := exists_inner_shift hne hpower
    (hx.size.trans_le (Nat.pow_le_pow_right two_pos (show 24 ≤ 53 by decide)))
  obtain ⟨hexponent, hfew, hmany⟩ := hnarrow.units hwide (by omega) hlow hhigh
  have hvalue : x.toRat = (x.mantissa * 2 ^ k : Nat) * 2 ^ (x.exponent - k) := by
    rw [Magnitude.toRat, Nat.cast_mul, mul_assoc, Nat.cast_pow, Nat.cast_ofNat, two_pow_mul]
    congr 2
    omega
  generalize x.mantissa * 2 ^ k = m at hlow hhigh hfew hmany hvalue
  have hstep := Nat.two_pow_pos k
  -- the mirror image of the double is one with the same place
  obtain ⟨n, hn⟩ : ∃ n, wide.mantissa + n = 2 * m := ⟨2 * m - wide.mantissa, by omega⟩
  have hsum : Magnitude.toRat ⟨n, wide.exponent⟩ = 2 * x.toRat - wide.toRat := by
    have hcast : (n : ℚ) = 2 * m - wide.mantissa := by
      rw [eq_sub_iff_add_eq']
      exact_mod_cast hn
    rw [hvalue, ← hexponent, Magnitude.toRat, Magnitude.toRat, hcast]
    ring
  have hinner {y : Magnitude} (h : y.mantissa ≠ 2 ^ 52) : y.gap double = 1 / 2 :=
    if_neg fun hend => h hend.1
  have hgap : x.gap single = 1 / 2 := if_neg fun hfirst => hpower 23 hfirst.1
  refine ⟨⟨n, wide.exponent⟩, ⟨⟨?_, hwide.least, .inr ?_⟩, hgreatest⟩, ?_, ?_⟩
  · show n < 2 ^ 53
    omega
  · show 2 ^ 52 ≤ n
    omega
  · rw [hvalue, ← hexponent]
    exact hcovers.mirror (hinner (by omega)) (hinner (by dsimp only; omega)) rfl hn
  · rw [hsum]
    exact hnarrow.mirror hgap hgap rfl (two_mul x.mantissa).symm

end Reads

end RawSeries.Decimal
