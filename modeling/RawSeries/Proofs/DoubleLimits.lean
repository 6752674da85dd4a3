import RawSeries.Proofs.Rounding
import RawSeries.Query.Instant

namespace RawSeries

namespace Decimal

/-- The least size that is too large for a double: half a place above the greatest one. -/
def overflow : Nat :=
  (2 ^ 54 - 1) * 2 ^ 970

theorem overflow_eq : ((2 : ℚ) ^ double.precision - 1 / 2) * 2 ^ double.highest = overflow := by
  have hhighest : double.highest = ((970 : Nat) : Int) + 1 := by decide
  have hprecision : double.precision = 53 := rfl
  rw [overflow, Nat.cast_mul, Nat.cast_pow, hhighest, zpow_add_one₀ two_ne_zero, zpow_natCast,
    hprecision, Nat.cast_ofNat]
  generalize (2 : ℚ) ^ 970 = top
  norm_num
  ring

theorem double_round?_eq_none_iff (num : Nat) {den : Nat} (hden : 0 < den) :
    double.round? num den = none ↔ overflow * den ≤ num := by
  have hpos : (0 : ℚ) < den := by exact_mod_cast hden
  rw [double.round?_eq_none_iff double_isBounded num hden, overflow_eq, le_div_iff₀ hpos]
  exact_mod_cast Iff.rfl

namespace Binary

def toRat : Binary → ℚ
  | .finite negative size => if negative then -size.toRat else size.toRat
  | _ => 0

theorem ofQuotient?_eq_none_iff (num : Int) {den : Nat} (hden : 0 < den) :
    ofQuotient? num den = none ↔ overflow * den ≤ num.natAbs := by
  rw [ofQuotient?, Option.map_eq_none_iff, double_round?_eq_none_iff _ hden]

theorem ofQuotient?_finite {num : Int} {den : Nat} {x : Binary} (h : ofQuotient? num den = some x) :
    ∃ negative size, x = .finite negative size := by
  obtain ⟨size, -, rfl⟩ := Option.map_eq_some_iff.mp h
  exact ⟨_, _, rfl⟩

theorem toRat_negate (x : Binary) : x.negate.toRat = -x.toRat := by
  cases x with
  | nan => rfl
  | infinite negative => rfl
  | finite negative size => cases negative <;> simp [negate, toRat]

theorem units_toRat (negative : Bool) {size : Magnitude} {low : Int} (h : low ≤ size.exponent) :
    (units negative size low : ℚ) * 2 ^ low = toRat (.finite negative size) := by
  have hscale : (size.mantissa : ℚ) * 2 ^ (size.exponent - low).toNat * 2 ^ low = size.toRat := by
    rw [mul_assoc, two_pow_mul, Int.toNat_of_nonneg (by omega), Int.sub_add_cancel]
    rfl
  cases negative with
  | true => simp [units, toRat, ← hscale]
  | false => simp [units, toRat, ← hscale]

theorem ofUnits_cases (n low : Int) :
    (overflow : ℚ) ≤ |(n : ℚ) * 2 ^ low| ∧ (∃ negative, ofUnits n low = .infinite negative) ∨
      |(n : ℚ) * 2 ^ low| < overflow ∧ ∃ negative size, ofUnits n low = .finite negative size := by
  obtain ⟨x, hx⟩ : ∃ x : Magnitude, x = ⟨n.natAbs, low⟩ := ⟨_, rfl⟩
  have hden := x.quotient_den_pos
  have hpos : (0 : ℚ) < x.quotient.2 := by exact_mod_cast hden
  have hsize : |(n : ℚ) * 2 ^ low| = x.quotient.1 / x.quotient.2 := by
    rw [x.quotient_ratio, hx, Magnitude.toRat, abs_mul, abs_of_pos (two_zpow_pos low),
      Nat.cast_natAbs, Int.cast_abs]
  have hsigned : (if n < 0 then -(x.quotient.1 : Int) else x.quotient.1).natAbs = x.quotient.1 := by
    split <;> omega
  have hlimit := ofQuotient?_eq_none_iff
    (if n < 0 then -(x.quotient.1 : Int) else x.quotient.1) hden
  have hunits : ofUnits n low =
      (ofQuotient? (if n < 0 then -(x.quotient.1 : Int) else x.quotient.1) x.quotient.2).getD
        (.infinite (n < 0)) := by rw [hx]; rfl
  rw [hsigned] at hlimit
  rw [hunits, hsize, le_div_iff₀ hpos, div_lt_iff₀ hpos]
  cases hround : ofQuotient? (if n < 0 then -(x.quotient.1 : Int) else x.quotient.1)
      x.quotient.2 with
  | none => exact .inl ⟨by exact_mod_cast hlimit.mp hround, _, rfl⟩
  | some y =>
      have hless : x.quotient.1 < overflow * x.quotient.2 :=
        not_le.mp fun hle => Option.some_ne_none y (hround.symm.trans (hlimit.mpr hle))
      exact .inr ⟨by exact_mod_cast hless, ofQuotient?_finite hround⟩

theorem plus_cases {x y : Binary} (hx : ∃ negative size, x = .finite negative size)
    (hy : ∃ negative size, y = .finite negative size) :
    (overflow : ℚ) ≤ |x.toRat + y.toRat| ∧ (∃ negative, x.plus y = .infinite negative) ∨
      |x.toRat + y.toRat| < overflow ∧ ∃ negative size, x.plus y = .finite negative size := by
  obtain ⟨a, m, rfl⟩ := hx
  obtain ⟨b, n, rfl⟩ := hy
  have hsum : ((units a m (min m.exponent n.exponent) + units b n (min m.exponent n.exponent) :
      Int) : ℚ) * 2 ^ min m.exponent n.exponent =
        toRat (.finite a m) + toRat (.finite b n) := by
    rw [← units_toRat a (Int.min_le_left _ _), ← units_toRat b (Int.min_le_right _ _)]
    push_cast
    ring
  rw [← hsum]
  exact ofUnits_cases _ _

end Binary

end Decimal

namespace Quantity

open Decimal

/-- Why the time a number of milliseconds before an instant can not be computed: the milliseconds in
seconds, the instant or their difference is too large for a double. -/
inductive Exceeds (now : Int) (millis : Nat) : NumberFlaw → Prop
  | quotient (h : overflow * 1000 ≤ millis) : Exceeds now millis .quotientTooLarge
  | whole (hmillis : millis < overflow * 1000) (h : overflow ≤ now.natAbs) :
      Exceeds now millis .wholeTooLarge
  | difference {instant ago : Binary} (hnow : Binary.ofQuotient? now 1 = some instant)
      (hmillis : Binary.ofQuotient? millis 1000 = some ago)
      (h : (overflow : ℚ) ≤ |instant.toRat - ago.toRat|) : Exceeds now millis .infinite

variable {now : Int} {millis : Nat} {flaw : NumberFlaw}

theorem plus_negate_cases {instant ago : Binary} (hnow : Binary.ofQuotient? now 1 = some instant)
    (hmillis : Binary.ofQuotient? millis 1000 = some ago) :
    (overflow : ℚ) ≤ |instant.toRat - ago.toRat| ∧
        (∃ negative, instant.plus ago.negate = .infinite negative) ∨
      |instant.toRat - ago.toRat| < overflow ∧
        ∃ negative size, instant.plus ago.negate = .finite negative size := by
  have hnegate : ∃ negative size, ago.negate = .finite negative size := by
    obtain ⟨negative, size, rfl⟩ := Binary.ofQuotient?_finite hmillis
    exact ⟨_, _, rfl⟩
  rw [sub_eq_add_neg, ← Binary.toRat_negate]
  exact Binary.plus_cases (Binary.ofQuotient?_finite hnow) hnegate

theorem Exceeds.before (h : Exceeds now millis flaw) :
    before (.whole now) millis = .error flaw := by
  cases h with
  | quotient h =>
      have hago : Binary.ofQuotient? millis 1000 = none :=
        (Binary.ofQuotient?_eq_none_iff millis (by decide)).mpr h
      simp only [Quantity.before, hago]
      rfl
  | whole hmillis h =>
      obtain ⟨ago, hago⟩ : ∃ ago, Binary.ofQuotient? millis 1000 = some ago := by
        rw [← Option.ne_none_iff_exists', ne_eq, Binary.ofQuotient?_eq_none_iff _ (by decide)]
        exact hmillis.not_ge
      have hnow : Binary.ofQuotient? now 1 = none :=
        (Binary.ofQuotient?_eq_none_iff now Nat.one_pos).mpr (by rwa [Nat.mul_one])
      simp only [Quantity.before, hago, toDouble, hnow]
      rfl
  | difference hnow hmillis h =>
      simp only [Quantity.before, hmillis, toDouble, hnow, bind, Except.bind]
      rcases plus_negate_cases hnow hmillis with ⟨-, negative, hsum⟩ | ⟨hnear, -⟩
      · rw [hsum]
        rfl
      · exact absurd h hnear.not_ge

theorem exceeds_of_before (h : before (.whole now) millis = .error flaw) :
    Exceeds now millis flaw := by
  unfold before at h
  cases hago : Binary.ofQuotient? millis 1000 with
  | none =>
      rw [hago] at h
      cases h
      exact .quotient ((Binary.ofQuotient?_eq_none_iff millis (by decide)).mp hago)
  | some ago =>
      rw [hago] at h
      have hless : millis < overflow * 1000 := not_le.mp fun hle => Option.some_ne_none ago
        (hago.symm.trans ((Binary.ofQuotient?_eq_none_iff millis (by decide)).mpr hle))
      cases hnow : Binary.ofQuotient? now 1 with
      | none =>
          simp only [toDouble, hnow] at h
          cases h
          have hlarge := (Binary.ofQuotient?_eq_none_iff now Nat.one_pos).mp hnow
          exact .whole hless (by rwa [Nat.mul_one] at hlarge)
      | some instant =>
          simp only [toDouble, hnow, bind, Except.bind] at h
          rcases plus_negate_cases hnow hago with
            ⟨hlarge, negative, hsum⟩ | ⟨-, negative, size, hsum⟩
          · rw [hsum] at h
            cases h
            exact .difference hnow hago hlarge
          · rw [hsum] at h
            cases h

/-- The time before an instant fails to be computed in these cases only. -/
theorem before_eq_error_iff : before (.whole now) millis = .error flaw ↔ Exceeds now millis flaw :=
  ⟨exceeds_of_before, Exceeds.before⟩

end Quantity

end RawSeries
