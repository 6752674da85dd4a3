import Mathlib.Order.Interval.Set.OrdConnected
import RawSeries.Proofs.ShortestDecimals

namespace RawSeries.Decimal

theorem ten_zpow_add (a b : Int) : (10 : ℚ) ^ (a + b) = 10 ^ a * 10 ^ b :=
  zpow_add₀ (by norm_num) a b

theorem coefficient_eq {m n j : Nat} {e : Int} (h : (m : ℚ) * 10 ^ e = n * 10 ^ (e + j)) :
    m = n * 10 ^ j := by
  have hpos : (0 : ℚ) < 10 ^ e := by positivity
  rw [add_comm, ten_zpow_add, zpow_natCast, ← mul_assoc] at h
  exact_mod_cast mul_right_cancel₀ hpos.ne' h

namespace Number

variable {x y : Number}

/-- The count of the digits of a decimal, without the zeros before and after the others. -/
def digitCount (x : Number) : Nat :=
  (Numeral.digits x.trim.coefficient).length

theorem digitCount_pos (x : Number) : 0 < x.digitCount :=
  List.length_pos_iff.mpr (Numeral.digits_ne_nil _)

theorem trim_last (h : x.trim.coefficient ≠ 0) : x.trim.coefficient % 10 ≠ 0 := by
  fun_induction Number.trim x with
  | case1 x hx ih => exact ih h
  | case2 x hx => exact fun hlast => hx ⟨h, hlast⟩

theorem exists_digits (x : Number) :
    ∃ (c : Nat) (e : Int), c < 10 ^ x.digitCount ∧ x.toRat = c * 10 ^ e :=
  ⟨x.trim.coefficient, x.trim.exponent, Numeral.lt_pow_length _, x.trim_toRat.symm⟩

theorem digitCount_le {c k : Nat} {e : Int} (hk : 0 < k) (hc : c ≤ 10 ^ k)
    (h : x.toRat = c * 10 ^ e) : x.digitCount ≤ k := by
  refine Numeral.length_digits_le_of_lt hk ?_
  by_cases hzero : x.trim.coefficient = 0
  · rw [hzero]
    exact Nat.pow_pos (by decide)
  · have hlast := trim_last hzero
    have hsame : (x.trim.coefficient : ℚ) * 10 ^ x.trim.exponent = c * 10 ^ e :=
      x.trim_toRat.trans h
    rcases le_or_gt e x.trim.exponent with hle | hlt
    · obtain ⟨j, hj⟩ := Int.le.dest hle
      rw [← hj] at hsame
      have hge : x.trim.coefficient ≤ c := by
        rw [coefficient_eq hsame.symm]
        exact Nat.le_mul_of_pos_right _ (Nat.pow_pos (by decide))
      refine lt_of_le_of_ne (hge.trans hc) fun hend => hlast ?_
      rw [hend, Nat.pow_eq, ← Nat.sub_add_cancel hk, Nat.pow_succ, Nat.mul_mod_left]
    · obtain ⟨j, hj⟩ := Int.le.dest (show x.trim.exponent + 1 ≤ e from hlt)
      have hplace : e = x.trim.exponent + (j + 1 : Nat) := by omega
      rw [hplace] at hsame
      refine absurd ?_ hlast
      rw [coefficient_eq hsame, Nat.pow_succ, ← Nat.mul_assoc, Nat.mul_mod_left]

theorem digitCount_congr (h : x.toRat = y.toRat) : x.digitCount = y.digitCount := by
  obtain ⟨c, e, hc, hvalue⟩ := x.exists_digits
  obtain ⟨d, g, hd, hother⟩ := y.exists_digits
  exact le_antisymm (digitCount_le y.digitCount_pos hd.le (h.trans hother))
    (digitCount_le x.digitCount_pos hc.le (h.symm.trans hvalue))

end Number

theorem shrink_leadingPlace_lt (num : Nat) {den : Nat} (hden : 0 < den) :
    (shrink 10 num den (leadingPlace num den)).1 <
      10 * (shrink 10 num den (leadingPlace num den)).2 := by
  have hten (k : Nat) : Nat.pow 10 (k + 1) = 10 * Nat.pow 10 k := Nat.pow_succ'
  have hlength (n : Nat) : 0 < (Numeral.digits n).length :=
    List.length_pos_iff.mpr (Numeral.digits_ne_nil n)
  simp only [leadingPlace]
  split
  · obtain ⟨k, hk⟩ := Nat.exists_eq_succ_of_ne_zero (hlength (num / den)).ne'
    have hplace : ((Numeral.digits (num / den)).length : Int) - 1 = (k : Int) := by omega
    have hquotient := Numeral.lt_pow_length (num / den)
    rw [hk, Nat.succ_eq_add_one, hten, Nat.div_lt_iff_lt_mul hden] at hquotient
    rw [hplace, shrink_nat]
    calc num < 10 * Nat.pow 10 k * den := hquotient
      _ = 10 * (den * Nat.pow 10 k) := by rw [Nat.mul_assoc, Nat.mul_comm den]
  · rename_i hless
    obtain ⟨shift, hshift⟩ : ∃ shift, shift =
      (Numeral.digits den).length - (Numeral.digits num).length := ⟨_, rfl⟩
    rw [← hshift]
    split
    · have hsizes : (Numeral.digits num).length ≤ (Numeral.digits den).length :=
        Numeral.length_digits_le_of_lt (hlength den)
          ((Nat.lt_of_not_le hless).trans (Numeral.lt_pow_length den))
      obtain ⟨k, hk⟩ := Nat.exists_eq_succ_of_ne_zero (hlength den).ne'
      have hlead := Numeral.pow_length_le hden
      rw [hk, Nat.succ_sub_one] at hlead
      rw [shrink_neg]
      calc num * Nat.pow 10 shift
          < Nat.pow 10 (Numeral.digits num).length * Nat.pow 10 shift :=
            Nat.mul_lt_mul_of_pos_right (Numeral.lt_pow_length num) (Nat.pow_pos (by decide))
        _ = Nat.pow 10 (k + 1) := by
            rw [Nat.pow_eq, Nat.pow_eq, Nat.pow_eq, ← Nat.pow_add]
            congr 1
            omega
        _ ≤ 10 * den := by
            rw [hten]
            exact Nat.mul_le_mul_left 10 hlead
    · rename_i hmore
      have hplace : -(shift : Int) - 1 = -((shift + 1 : Nat) : Int) := by omega
      rw [hplace, shrink_neg, hten, Nat.mul_left_comm]
      exact Nat.mul_lt_mul_of_pos_left (Nat.lt_of_not_le hmore) (by decide)

theorem lt_ten_zpow_leadingPlace (num : Nat) {den : Nat} (hden : 0 < den) :
    (num : ℚ) / den < 10 ^ (leadingPlace num den + 1) := by
  have hpos : (0 : ℚ) < 10 ^ leadingPlace num den := by positivity
  have hbits : (0 : ℚ) < (shrink 10 num den (leadingPlace num den)).2 := by
    exact_mod_cast shrink_pos (Nat.succ_pos 9) num hden (leadingPlace num den)
  have hratio := shrink_ratio 10 num den (leadingPlace num den)
  have hless : ((shrink 10 num den (leadingPlace num den)).1 : ℚ) <
      10 * (shrink 10 num den (leadingPlace num den)).2 := by
    exact_mod_cast shrink_leadingPlace_lt num hden
  rw [Nat.cast_ofNat] at hratio
  rwa [ten_zpow_add, zpow_one, mul_comm, ← div_lt_iff₀ hpos, ← hratio, div_lt_iff₀ hbits]

section Grid

variable {num den : Nat} {e : Int}

theorem gridBelow_bounds (num : Nat) (hden : 0 < den) (e : Int) :
    (gridBelow num den e : ℚ) * 10 ^ e ≤ num / den ∧
      (num : ℚ) / den < (gridBelow num den e + 1 : Nat) * 10 ^ e := by
  have hpos : (0 : ℚ) < 10 ^ e := by positivity
  have hshrunk := shrink_pos (Nat.succ_pos 9) num hden e
  have hbits : (0 : ℚ) < (shrink 10 num den e).2 := by exact_mod_cast hshrunk
  have hratio := shrink_ratio 10 num den e
  rw [Nat.cast_ofNat] at hratio
  rw [← le_div_iff₀ hpos, ← div_lt_iff₀ hpos, ← hratio, le_div_iff₀ hbits, div_lt_iff₀ hbits]
  constructor
  · exact_mod_cast Nat.div_mul_le_self _ _
  · exact_mod_cast Nat.lt_mul_of_div_lt (Nat.lt_succ_self _) hshrunk

theorem gridBelow_lt (num : Nat) (hden : 0 < den) (count : Nat) :
    gridBelow num den (leadingPlace num den - count + 1) < 10 ^ count := by
  have hpos : (0 : ℚ) < 10 ^ (leadingPlace num den - count + 1) := by positivity
  have hless : (gridBelow num den (leadingPlace num den - count + 1) : ℚ) < 10 ^ (count : Int) := by
    refine lt_of_mul_lt_mul_right ?_ hpos.le
    calc (gridBelow num den (leadingPlace num den - count + 1) : ℚ) *
          10 ^ (leadingPlace num den - count + 1) ≤ num / den := (gridBelow_bounds num hden _).1
      _ < 10 ^ (leadingPlace num den + 1) := lt_ten_zpow_leadingPlace num hden
      _ = 10 ^ (count : Int) * 10 ^ (leadingPlace num den - count + 1) := by
          rw [← ten_zpow_add]
          congr 1
          omega
  rw [zpow_natCast] at hless
  exact_mod_cast hless

variable {S : Set ℚ}

/-- A decimal in a set without gaps stands on a grid of its own count of digits, or the power of ten
in between does. -/
theorem exists_onGrid (hS : S.OrdConnected) {v : ℚ} (hv : v ∈ S) {place : Int}
    (hplace : (10 : ℚ) ^ place ≤ v) {d : Number} (hd : d.toRat ∈ S) :
    ∃ c : Nat, (c : ℚ) * 10 ^ (place - d.digitCount + 1) ∈ S := by
  have hcount := d.digitCount_pos
  rcases le_or_gt ((10 : ℚ) ^ place) d.toRat with hle | hlt
  · obtain ⟨c, e, hc, hvalue⟩ := d.exists_digits
    -- with so few digits the last one stands on the grid or before it
    have hgrid : place - d.digitCount + 1 ≤ e := by
      by_contra hless
      have hshort : (c : ℚ) < 10 ^ (d.digitCount : Int) := by exact_mod_cast hc
      refine absurd hle (not_le.mpr ?_)
      calc d.toRat = c * 10 ^ e := hvalue
        _ < 10 ^ (d.digitCount : Int) * 10 ^ e := mul_lt_mul_of_pos_right hshort (by positivity)
        _ = 10 ^ ((d.digitCount : Int) + e) := (ten_zpow_add _ _).symm
        _ ≤ 10 ^ place := ten_zpow_le (by omega)
    obtain ⟨k, hk⟩ := Int.le.dest hgrid
    refine ⟨c * 10 ^ k, ?_⟩
    rw [hvalue, ← hk, add_comm, ten_zpow_add, zpow_natCast, ← mul_assoc] at hd
    exact_mod_cast hd
  · have hpower : ((10 ^ (d.digitCount - 1) : Nat) : ℚ) * 10 ^ (place - d.digitCount + 1) =
        10 ^ place := by
      rw [Nat.cast_pow, Nat.cast_ofNat, ← zpow_natCast, ← ten_zpow_add]
      congr 1
      omega
    refine ⟨10 ^ (d.digitCount - 1), ?_⟩
    rw [hpower]
    exact hS.out hd hv ⟨hlt.le, hplace⟩

theorem neighbour_mem (hS : S.OrdConnected) (hden : 0 < den) (hv : (num : ℚ) / den ∈ S) {c : Nat}
    (hc : (c : ℚ) * 10 ^ e ∈ S) :
    (gridBelow num den e : ℚ) * 10 ^ e ∈ S ∨
      ((gridBelow num den e + 1 : Nat) : ℚ) * 10 ^ e ∈ S := by
  have hpos : (0 : ℚ) ≤ 10 ^ e := by positivity
  obtain ⟨hbelow, habove⟩ := gridBelow_bounds num hden e
  have hscaled {m n : Nat} (h : m ≤ n) : (m : ℚ) * 10 ^ e ≤ n * 10 ^ e :=
    mul_le_mul_of_nonneg_right (by exact_mod_cast h) hpos
  rcases Nat.lt_or_ge (gridBelow num den e) c with hless | hge
  · exact .inr (hS.out hv hc ⟨habove.le, hscaled hless⟩)
  · exact .inl (hS.out hc hv ⟨hscaled hge, hbelow⟩)

end Grid

theorem roundEven_le (num den : Nat) : roundEven num den ≤ num / den + 1 := by
  simp only [roundEven]
  split
  · omega
  · split <;> omega

theorem digitCount_significant {count : Nat} (hcount : 0 < count) (num : Nat) {den : Nat}
    (hden : 0 < den) : (significant count num den).digitCount ≤ count :=
  Number.digitCount_le hcount ((roundEven_le _ _).trans (gridBelow_lt num hden count)) rfl

section Shortest

variable {f : Format} {x : Magnitude} {e : Int} {number : Number}

theorem Magnitude.covers_ordConnected (f : Format) (x : Magnitude) :
    {q | x.Covers f q}.OrdConnected := by
  have hpos := (two_zpow_pos x.exponent).le
  refine ⟨fun a ha b hb q hq => ?_⟩
  have hleft : a / 2 ^ x.exponent ≤ q / 2 ^ x.exponent := div_le_div_of_nonneg_right hq.1 hpos
  have hright : q / 2 ^ x.exponent ≤ b / 2 ^ x.exponent := div_le_div_of_nonneg_right hq.2 hpos
  refine ⟨ha.below.trans hleft, hright.trans hb.above, fun hend => ?_⟩
  rcases hend with hend | hend
  · exact ha.even (.inl (le_antisymm (hleft.trans hend.le) ha.below))
  · exact hb.even (.inr (le_antisymm hb.above (hend.ge.trans hright)))

theorem onGrid?_near (h : onGrid? f x e = some number) :
    number.exponent = e ∧ number.coefficient ≤ gridBelow x.quotient.1 x.quotient.2 e + 1 := by
  obtain ⟨reads, first, second, -, hpair, htries⟩ := onGrid?_tries f x e
  rw [htries] at h
  split at h
  · cases h
    exact ⟨rfl, by dsimp only; omega⟩
  · split at h
    · cases h
      exact ⟨rfl, by dsimp only; omega⟩
    · cases h

theorem onGrid?_isSome (h : x.Covers f ((gridBelow x.quotient.1 x.quotient.2 e : ℚ) * 10 ^ e) ∨
    x.Covers f (((gridBelow x.quotient.1 x.quotient.2 e + 1 : Nat) : ℚ) * 10 ^ e)) :
    (onGrid? f x e).isSome = true := by
  obtain ⟨reads, first, second, hreads, hpair, htries⟩ := onGrid?_tries f x e
  rw [← hreads, ← hreads] at h
  have hsome : reads first = true ∨ reads second = true := by
    rcases hpair with ⟨hfirst, hsecond⟩ | ⟨hsecond, hfirst⟩
    · rwa [hsecond, hfirst]
    · rw [hfirst, hsecond]
      exact h.symm
  rw [htries]
  split
  · rfl
  · rename_i hfirst
    rw [if_pos (hsome.resolve_left hfirst)]
    rfl

theorem shortestFrom_digitCount (hne : x.mantissa ≠ 0) {tries count k : Nat} (hcount : 0 < count)
    (hk : count ≤ k) (h : k < count + tries →
      (onGrid? f x (leadingPlace x.quotient.1 x.quotient.2 - k + 1)).isSome = true) :
    (shortestFrom f x tries count).digitCount ≤ k := by
  obtain ⟨hnum, hden⟩ := x.quotient_pos hne
  induction tries generalizing count with
  | zero => exact (digitCount_significant hcount _ hden).trans hk
  | succ tries ih =>
      rw [shortestFrom]
      split
      · rename_i number hnumber
        obtain ⟨hexponent, hcoefficient⟩ := onGrid?_near hnumber
        exact (Number.digitCount_le hcount
          (hcoefficient.trans (gridBelow_lt _ hden count)) rfl).trans hk
      · rename_i hnone
        have hmore : k ≠ count := by
          rintro rfl
          rw [hnone] at h
          cases h (by omega)
        exact ih (Nat.succ_pos count) (by omega) fun hless => h (by omega)

theorem shortest_digitCount (hne : x.mantissa ≠ 0) {d : Number} (hd : x.Covers f d.toRat) :
    (shortest f x).digitCount ≤ d.digitCount := by
  obtain ⟨hnum, hden⟩ := x.quotient_pos hne
  have hvalue : (x.quotient.1 : ℚ) / x.quotient.2 ∈ {q | x.Covers f q} := by
    rw [x.quotient_ratio]
    exact x.covers_toRat f
  rw [shortest, if_neg hne, Number.digitCount_congr (Number.trim_toRat _)]
  refine shortestFrom_digitCount hne Nat.one_pos d.digitCount_pos fun _ => onGrid?_isSome ?_
  obtain ⟨c, hc⟩ := exists_onGrid (x.covers_ordConnected f) hvalue
    (ten_zpow_leadingPlace hnum hden) hd
  exact neighbour_mem (x.covers_ordConnected f) hden hvalue hc

end Shortest

end RawSeries.Decimal
