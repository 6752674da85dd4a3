import Mathlib.Algebra.Order.Field.Power
import Mathlib.Tactic.FieldSimp
import Mathlib.Tactic.Linarith
import Mathlib.Tactic.NormNum
import Mathlib.Tactic.Positivity
import Mathlib.Tactic.Ring
import RawSeries.Proofs.DecimalTexts

namespace RawSeries.Decimal

def Magnitude.toRat (x : Magnitude) : ℚ :=
  x.mantissa * 2 ^ x.exponent

def Number.toRat (x : Number) : ℚ :=
  x.coefficient * 10 ^ x.exponent

theorem Magnitude.toRat_zero {x : Magnitude} (h : x.mantissa = 0) : x.toRat = 0 := by
  rw [Magnitude.toRat, h, Nat.cast_zero, zero_mul]

theorem two_zpow_pos (e : Int) : (0 : ℚ) < 2 ^ e :=
  zpow_pos two_pos e

theorem two_zpow_add (a b : Int) : (2 : ℚ) ^ (a + b) = 2 ^ a * 2 ^ b :=
  zpow_add₀ two_ne_zero a b

theorem two_pow_mul (n : Nat) (e : Int) : (2 : ℚ) ^ n * 2 ^ e = 2 ^ ((n : Int) + e) := by
  rw [two_zpow_add, zpow_natCast]

theorem two_zpow_le {a b : Int} (h : a ≤ b) : (2 : ℚ) ^ a ≤ 2 ^ b :=
  zpow_le_zpow_right₀ one_le_two h

theorem two_pow_pred {n : Nat} (h : 0 < n) : (2 : ℚ) ^ n = 2 * 2 ^ (n - 1) := by
  rw [← pow_succ', Nat.sub_add_cancel h]

theorem div_zpow_pred (q : ℚ) (e : Int) : q / 2 ^ (e - 1) = 2 * (q / 2 ^ e) := by
  rw [zpow_sub_one₀ two_ne_zero, div_mul_eq_div_div, div_inv_eq_mul, mul_comm]

theorem div_zpow_succ (q : ℚ) (e : Int) : q / 2 ^ (e + 1) = q / 2 ^ e / 2 := by
  rw [zpow_add_one₀ two_ne_zero, div_div]

theorem two_pow_even {n : Nat} (h : 0 < n) : 2 ^ n % 2 = 0 := by
  rw [← Nat.sub_add_cancel h, Nat.pow_succ, Nat.mul_mod_left]

theorem log2_ratio {num den : Nat} (hnum : 0 < num) (hden : 0 < den) :
    (2 : ℚ) ^ ((Nat.log2 num : Int) - Nat.log2 den - 1) < num / den ∧
      (num : ℚ) / den < 2 ^ ((Nat.log2 num : Int) - Nat.log2 den + 1) := by
  have hpos : (0 : ℚ) < den := by exact_mod_cast hden
  have hleast {n : Nat} (h : 0 < n) : (2 : ℚ) ^ (Nat.log2 n : Int) ≤ n := by
    exact_mod_cast Nat.log2_self_le h.ne'
  have hgreatest (n : Nat) : (n : ℚ) < 2 ^ ((Nat.log2 n : Int) + 1) := by
    exact_mod_cast Nat.lt_log2_self
  constructor
  · rw [lt_div_iff₀ hpos]
    calc (2 : ℚ) ^ ((Nat.log2 num : Int) - Nat.log2 den - 1) * den
        < 2 ^ ((Nat.log2 num : Int) - Nat.log2 den - 1) * 2 ^ ((Nat.log2 den : Int) + 1) :=
          mul_lt_mul_of_pos_left (hgreatest den) (two_zpow_pos _)
      _ = 2 ^ (Nat.log2 num : Int) := by
          rw [← two_zpow_add]
          congr 1
          omega
      _ ≤ num := hleast hnum
  · rw [div_lt_iff₀ hpos]
    calc (num : ℚ) < 2 ^ ((Nat.log2 num : Int) + 1) := hgreatest num
      _ = 2 ^ ((Nat.log2 num : Int) - Nat.log2 den + 1) * 2 ^ (Nat.log2 den : Int) := by
          rw [← two_zpow_add]
          congr 1
          omega
      _ ≤ 2 ^ ((Nat.log2 num : Int) - Nat.log2 den + 1) * den :=
          mul_le_mul_of_nonneg_left (hleast hden) (two_zpow_pos _).le

theorem shrink_ratio (base num den : Nat) (e : Int) :
    ((shrink base num den e).1 : ℚ) / (shrink base num den e).2 = num / den / (base : ℚ) ^ e := by
  cases e with
  | ofNat k => simp [shrink, div_div]
  | negSucc k =>
      simp only [shrink, Nat.pow_eq, Nat.cast_mul, Nat.cast_pow, zpow_negSucc, div_inv_eq_mul]
      ring

def scaled (base n : Nat) : Int → Nat × Nat
  | .ofNat k => (n * Nat.pow base k, 1)
  | .negSucc k => (n, Nat.pow base (k + 1))

theorem scaled_ratio (base n : Nat) (e : Int) :
    ((scaled base n e).1 : ℚ) / (scaled base n e).2 = n * (base : ℚ) ^ e := by
  cases e with
  | ofNat k => simp [scaled]
  | negSucc k => simp [scaled, zpow_negSucc, div_eq_mul_inv]

theorem scaled_den_pos {base : Nat} (hbase : 0 < base) (n : Nat) (e : Int) :
    0 < (scaled base n e).2 := by
  cases e with
  | ofNat k => exact Nat.one_pos
  | negSucc k => exact Nat.pow_pos hbase

theorem Magnitude.quotient_ratio (x : Magnitude) :
    (x.quotient.1 : ℚ) / x.quotient.2 = x.toRat :=
  scaled_ratio 2 x.mantissa x.exponent

theorem Magnitude.quotient_den_pos (x : Magnitude) : 0 < x.quotient.2 :=
  scaled_den_pos two_pos x.mantissa x.exponent

theorem Number.quotient_ratio (x : Number) :
    (x.quotient.1 : ℚ) / x.quotient.2 = x.toRat :=
  scaled_ratio 10 x.coefficient x.exponent

theorem Number.quotient_den_pos (x : Number) : 0 < x.quotient.2 :=
  scaled_den_pos (Nat.succ_pos 9) x.coefficient x.exponent

/-- A whole number is nearest to a quotient, and even if another one is as near. -/
structure Rounds (q : ℚ) (m : Nat) : Prop where
  below : (m : ℚ) - 1 / 2 ≤ q
  above : q ≤ m + 1 / 2
  even : q = m - 1 / 2 ∨ q = m + 1 / 2 → m % 2 = 0

theorem Rounds.of_lt {q : ℚ} {m : Nat} (hbelow : (m : ℚ) - 1 / 2 < q) (habove : q < m + 1 / 2) :
    Rounds q m where
  below := hbelow.le
  above := habove.le
  even h := by
    rcases h with h | h
    · exact absurd h hbelow.ne'
    · exact absurd h habove.ne

theorem rounds_roundEven (num : Nat) {den : Nat} (hden : 0 < den) :
    Rounds (num / den) (roundEven num den) := by
  have hpos : (0 : ℚ) < den := by exact_mod_cast hden
  obtain ⟨t, ht⟩ : ∃ t : ℚ, t = ((num % den : Nat) : ℚ) / den := ⟨_, rfl⟩
  have hsplit : (num : ℚ) / den = (num / den : Nat) + t := by
    have hnum : (num : ℚ) = den * (num / den : Nat) + (num % den : Nat) := by
      exact_mod_cast (Nat.div_add_mod num den).symm
    rw [ht, div_eq_iff hpos.ne', add_mul, div_mul_cancel₀ _ hpos.ne', hnum]
    ring
  have hnonneg : 0 ≤ t := by
    rw [ht]
    positivity
  have hone : t < 1 := by
    rw [ht, div_lt_one hpos]
    exact_mod_cast Nat.mod_lt num hden
  have hless : 2 * (num % den) < den ↔ t < 1 / 2 := by
    rw [ht, div_lt_div_iff₀ hpos two_pos, one_mul, mul_comm]
    exact_mod_cast Iff.rfl
  have hmore : den < 2 * (num % den) ↔ 1 / 2 < t := by
    rw [ht, div_lt_div_iff₀ two_pos hpos, one_mul, mul_comm]
    exact_mod_cast Iff.rfl
  simp only [roundEven, hless, hmore]
  rw [hsplit]
  generalize num / den = n
  have hnext : ((n + 1 : Nat) : ℚ) = n + 1 := Nat.cast_succ n
  split
  · exact .of_lt (by linarith) (by linarith)
  · split
    · exact .of_lt (by linarith) (by linarith)
    · have hhalf : t = 1 / 2 := by linarith
      rcases Nat.mod_two_eq_zero_or_one n with hn | hn
      · rw [hn, hhalf, Nat.add_zero]
        exact ⟨by linarith, by linarith, fun _ => hn⟩
      · rw [hn, hhalf]
        exact ⟨by linarith, by linarith, fun _ => by omega⟩

theorem rounds_shrink {base : Nat} (hbase : 0 < base) (num : Nat) {den : Nat} (hden : 0 < den)
    (e : Int) : Rounds (num / den / (base : ℚ) ^ e)
      (roundEven (shrink base num den e).1 (shrink base num den e).2) := by
  rw [← shrink_ratio]
  exact rounds_roundEven _ (shrink_pos hbase num hden e)

theorem rounds_zero : Rounds 0 0 :=
  ⟨by norm_num, by norm_num, fun _ => rfl⟩

theorem Rounds.unique {q : ℚ} {m n : Nat} (hm : Rounds q m) (hn : Rounds q n) : m = n := by
  wlog h : m < n generalizing m n with hwlog
  · by_contra hne
    exact hne (hwlog hn hm (by omega)).symm
  have hstep : (m : ℚ) + 1 ≤ n := by exact_mod_cast h
  have hleft : q = m + 1 / 2 := by linarith [hm.above, hn.below]
  have hright : q = n - 1 / 2 := by linarith [hm.above, hn.below]
  have hnext : n = m + 1 := by
    have hcast : (n : ℚ) = (m + 1 : Nat) := by
      push_cast
      linarith
    exact_mod_cast hcast
  have heven := hm.even (.inr hleft)
  have hodd := hn.even (.inl hright)
  omega

end RawSeries.Decimal
