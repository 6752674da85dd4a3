import RawSeries.Proofs.Quotients

/-!
Rounding to a format of binary numbers. Every number of a format has an interval of quotients around
it, and a quotient is rounded to the number in whose interval it lies.
-/

namespace RawSeries.Decimal

/-- A number with the precision of a format: the mantissa has its leading bit, except at the least
exponent. -/
structure Magnitude.IsFull (f : Format) (x : Magnitude) : Prop where
  size : x.mantissa < 2 ^ f.precision
  least : f.lowest ≤ x.exponent
  full : x.exponent = f.lowest ∨ 2 ^ (f.precision - 1) ≤ x.mantissa

/-- A number of a format. -/
structure Magnitude.IsOf (f : Format) (x : Magnitude) : Prop extends x.IsFull f where
  greatest : x.exponent ≤ f.highest

/-- Half the way to the number below, in last places. -/
def Magnitude.gap (f : Format) (x : Magnitude) : ℚ :=
  if x.mantissa = 2 ^ (f.precision - 1) ∧ f.lowest < x.exponent then 1 / 4 else 1 / 2

/-- A quotient lies in the interval of a number: half the way down, half the way up, and the ends
themselves for an even mantissa. -/
structure Magnitude.Covers (f : Format) (x : Magnitude) (q : ℚ) : Prop where
  below : x.mantissa - x.gap f ≤ q / 2 ^ x.exponent
  above : q / 2 ^ x.exponent ≤ x.mantissa + 1 / 2
  even : q / 2 ^ x.exponent = x.mantissa - x.gap f ∨ q / 2 ^ x.exponent = x.mantissa + 1 / 2 →
    x.mantissa % 2 = 0

/-- Formats wide enough for halves to have an even neighbour, within the decimal exponents that are
settled at once. -/
structure Format.IsBounded (f : Format) : Prop where
  precise : 2 ≤ f.precision
  ordered : f.lowest ≤ f.highest
  bottom : -1200 ≤ f.lowest
  top : f.highest + f.precision ≤ 1200

theorem single_isBounded : single.IsBounded := by
  constructor <;> decide

theorem double_isBounded : double.IsBounded := by
  constructor <;> decide

section Format

variable {f : Format} {x : Magnitude} {q : ℚ} {m : Nat} {e : Int}

theorem Magnitude.isOf_zero (hf : f.IsBounded) : (⟨0, f.lowest⟩ : Magnitude).IsOf f where
  size := Nat.two_pow_pos _
  least := le_rfl
  full := .inl rfl
  greatest := hf.ordered

theorem Magnitude.gap_cases (f : Format) (x : Magnitude) :
    x.gap f = 1 / 4 ∧ x.mantissa = 2 ^ (f.precision - 1) ∧ f.lowest < x.exponent ∨
      x.gap f = 1 / 2 ∧ ¬(x.mantissa = 2 ^ (f.precision - 1) ∧ f.lowest < x.exponent) := by
  unfold Magnitude.gap
  split
  · exact .inl ⟨rfl, ‹_›⟩
  · exact .inr ⟨rfl, ‹_›⟩

theorem Magnitude.gap_le (f : Format) (x : Magnitude) : x.gap f ≤ 1 / 2 := by
  rcases x.gap_cases f with ⟨hgap, -⟩ | ⟨hgap, -⟩ <;> rw [hgap]
  norm_num

theorem Magnitude.le_gap (f : Format) (x : Magnitude) : 1 / 4 ≤ x.gap f := by
  rcases x.gap_cases f with ⟨hgap, -⟩ | ⟨hgap, -⟩ <;> rw [hgap]
  norm_num

theorem Magnitude.Covers.of_lt (hbelow : x.mantissa - x.gap f < q / 2 ^ x.exponent)
    (habove : q / 2 ^ x.exponent < x.mantissa + 1 / 2) : x.Covers f q where
  below := hbelow.le
  above := habove.le
  even h := by
    rcases h with h | h
    · exact absurd h hbelow.ne'
    · exact absurd h habove.ne

theorem Magnitude.covers_of_near (h : 4 * |q - x.toRat| < 2 ^ x.exponent) : x.Covers f q := by
  have hpos := two_zpow_pos x.exponent
  have hdistance : |q / 2 ^ x.exponent - x.mantissa| < 1 / 4 := by
    have hsplit : q / 2 ^ x.exponent - x.mantissa = (q - x.toRat) / 2 ^ x.exponent := by
      rw [sub_div, Magnitude.toRat, mul_div_cancel_right₀ _ hpos.ne']
    rw [hsplit, abs_div, abs_of_pos hpos, div_lt_iff₀ hpos]
    linarith
  obtain ⟨hlow, hhigh⟩ := abs_lt.mp hdistance
  have hgap := x.le_gap f
  exact .of_lt (by linarith) (by linarith)

theorem Magnitude.covers_toRat (f : Format) (x : Magnitude) : x.Covers f x.toRat :=
  covers_of_near (by simpa using two_zpow_pos x.exponent)

/-- A quotient fills the precision of a format down to a place, which is not below the least one. -/
structure Format.IsPlace (f : Format) (q : ℚ) (e : Int) : Prop where
  least : f.lowest ≤ e
  below : q / 2 ^ e < 2 ^ f.precision
  full : e = f.lowest ∨ 2 ^ (f.precision - 1) ≤ q / 2 ^ e

/-- The place at which a positive quotient fills the precision exactly; the least place stands for
those below it. -/
theorem Format.exists_filled (hf : f.IsBounded) {num den : Nat} (hnum : 0 < num) (hden : 0 < den) :
    ∃ e : Int, f.place num den = max e f.lowest ∧ (num : ℚ) / den / 2 ^ e < 2 ^ f.precision ∧
      (2 : ℚ) ^ (f.precision - 1) ≤ num / den / 2 ^ e := by
  obtain ⟨g, hg⟩ : ∃ g : Int, g = (Nat.log2 num : Int) - Nat.log2 den - (f.precision - 1) :=
    ⟨_, rfl⟩
  have hprecise := hf.precise
  have hbits : (0 : ℚ) < ((shrink 2 num den g).2 : ℚ) := by
    exact_mod_cast shrink_pos two_pos num hden g
  have htest : (shrink 2 num den g).2 * Nat.pow 2 (f.precision - 1) ≤ (shrink 2 num den g).1 ↔
      (2 : ℚ) ^ (f.precision - 1) ≤ num / den / 2 ^ g := by
    have hratio := shrink_ratio 2 num den g
    rw [Nat.cast_ofNat] at hratio
    rw [← hratio, le_div_iff₀ hbits, mul_comm]
    exact_mod_cast Iff.rfl
  obtain ⟨hlow, hhigh⟩ := log2_ratio hnum hden
  have hplace : f.place num den =
      max (if (2 : ℚ) ^ (f.precision - 1) ≤ num / den / 2 ^ g then g else g - 1) f.lowest := by
    simp only [Format.place, ← hg, htest]
  -- the sizes in bits leave two places, and the test decides between them
  refine ⟨_, hplace, ?_⟩
  split
  · rename_i htop
    refine ⟨?_, htop⟩
    rw [div_lt_iff₀ (two_zpow_pos g), two_pow_mul]
    exact hhigh.trans_le (two_zpow_le (by omega))
  · rename_i htop
    constructor
    · rw [not_le, div_lt_iff₀ (two_zpow_pos g), two_pow_mul] at htop
      rw [div_lt_iff₀ (two_zpow_pos _), two_pow_mul]
      exact htop.trans_le (two_zpow_le (by omega))
    · rw [le_div_iff₀ (two_zpow_pos _), two_pow_mul]
      exact (two_zpow_le (by omega)).trans hlow.le

theorem Format.isPlace_place (hf : f.IsBounded) {num den : Nat} (hnum : 0 < num) (hden : 0 < den) :
    f.IsPlace (num / den) (f.place num den) := by
  obtain ⟨e, hplace, hbelow, hfull⟩ := f.exists_filled hf hnum hden
  rw [hplace]
  rcases le_total f.lowest e with hle | hle
  · rw [max_eq_left hle]
    exact ⟨hle, hbelow, .inr hfull⟩
  · rw [max_eq_right hle]
    refine ⟨le_rfl, lt_of_le_of_lt ?_ hbelow, .inl rfl⟩
    exact div_le_div_of_nonneg_left (by positivity) (two_zpow_pos e) (two_zpow_le hle)

theorem Format.IsPlace.unique (hf : f.IsBounded) {d e : Int} (hd : f.IsPlace q d)
    (he : f.IsPlace q e) : d = e := by
  wlog h : d < e generalizing d e with hwlog
  · by_contra hne
    exact hne (hwlog he hd (by omega)).symm
  have hleast := hd.least
  have hfull := he.full.resolve_left (by omega)
  have hbelow := hd.below
  have hprecise := hf.precise
  rw [le_div_iff₀ (two_zpow_pos e), two_pow_mul] at hfull
  rw [div_lt_iff₀ (two_zpow_pos d), two_pow_mul] at hbelow
  exact absurd (hbelow.trans_le ((two_zpow_le (by omega)).trans hfull)) (lt_irrefl q)

theorem Format.isPlace_zero (f : Format) : f.IsPlace 0 f.lowest :=
  ⟨le_rfl, by rw [zero_div]; positivity, .inl rfl⟩

/-- A mantissa at a place; one that has become too long is carried to the next place. -/
def Format.carry (f : Format) (m : Nat) (e : Int) : Magnitude :=
  if m = 2 ^ f.precision then ⟨2 ^ (f.precision - 1), e + 1⟩ else ⟨m, e⟩

theorem Format.exists_place (hf : f.IsBounded) (num : Nat) {den : Nat} (hden : 0 < den) :
    ∃ m e, f.IsPlace (num / den) e ∧ Rounds (num / den / 2 ^ e) m := by
  obtain ⟨e, he⟩ : ∃ e, f.IsPlace (num / den) e := by
    rcases Nat.eq_zero_or_pos num with rfl | hnum
    · exact ⟨f.lowest, by simpa using f.isPlace_zero⟩
    · exact ⟨_, f.isPlace_place hf hnum hden⟩
  exact ⟨_, e, he, rounds_shrink two_pos num hden e⟩

theorem Format.round?_of_place (hf : f.IsBounded) {num den : Nat} (hden : 0 < den)
    (he : f.IsPlace (num / den) e) (hm : Rounds (num / den / 2 ^ e) m) :
    f.round? num den = if f.highest < (f.carry m e).exponent then none else some (f.carry m e) := by
  unfold Format.round?
  by_cases hnum : num = 0
  · subst hnum
    rw [Nat.cast_zero, zero_div] at he hm
    obtain rfl := he.unique hf f.isPlace_zero
    rw [zero_div] at hm
    obtain rfl := hm.unique rounds_zero
    have hpow : ¬0 = 2 ^ f.precision := (Nat.two_pow_pos _).ne
    rw [if_pos rfl, Format.carry, if_neg hpow, if_neg hf.ordered.not_gt]
  · rw [if_neg hnum]
    have hplace := (f.isPlace_place hf (Nat.pos_of_ne_zero hnum) hden).unique hf he
    have hround := (rounds_shrink two_pos num hden e).unique hm
    simp only [hplace, hround]
    rfl

theorem Format.IsPlace.rounds_le (he : f.IsPlace q e) (hm : Rounds (q / 2 ^ e) m) :
    m ≤ 2 ^ f.precision := by
  have hlt : (m : ℚ) < ((2 ^ f.precision + 1 : Nat) : ℚ) := by
    push_cast
    linarith [hm.below, he.below]
  exact Nat.lt_succ_iff.mp (by exact_mod_cast hlt)

theorem Format.IsPlace.carry_isFull (hf : f.IsBounded) (he : f.IsPlace q e)
    (hm : Rounds (q / 2 ^ e) m) : (f.carry m e).IsFull f := by
  have hpow : 2 ^ (f.precision - 1) < 2 ^ f.precision :=
    Nat.pow_lt_pow_right Nat.one_lt_two (by have hprecise := hf.precise; omega)
  have hleast := he.least
  unfold Format.carry
  split
  · exact ⟨hpow, by dsimp only; omega, .inr le_rfl⟩
  · rename_i hne
    refine ⟨lt_of_le_of_ne (he.rounds_le hm) hne, he.least, he.full.imp_right fun hfull => ?_⟩
    have hlt : ((2 ^ (f.precision - 1) : Nat) : ℚ) < ((m + 1 : Nat) : ℚ) := by
      push_cast
      linarith [hm.above]
    exact Nat.lt_succ_iff.mp (by exact_mod_cast hlt)

theorem Format.IsPlace.carry_covers (hf : f.IsBounded) (he : f.IsPlace q e)
    (hm : Rounds (q / 2 ^ e) m) : (f.carry m e).Covers f q := by
  have hprecise := hf.precise
  have hbelow := hm.below
  have habove := hm.above
  have hpow := two_pow_pred (show 0 < f.precision by omega)
  have heven := two_pow_even (show 0 < f.precision - 1 by omega)
  unfold Format.carry
  split
  · rename_i htop
    have hcast : (m : ℚ) = 2 ^ f.precision := by
      rw [htop]
      push_cast
      rfl
    have hleast := he.least
    have hgap : Magnitude.gap f ⟨2 ^ (f.precision - 1), e + 1⟩ = 1 / 4 :=
      if_pos ⟨rfl, by dsimp only; omega⟩
    refine ⟨?_, ?_, fun _ => heven⟩
    · rw [hgap, div_zpow_succ]
      push_cast
      linarith
    · rw [div_zpow_succ]
      push_cast
      linarith [he.below]
  · rcases Magnitude.gap_cases f ⟨m, e⟩ with ⟨hgap, hfirst, hplace⟩ | ⟨hgap, -⟩
    · have hfull := he.full.resolve_left (ne_of_gt hplace)
      refine ⟨?_, habove, fun _ => by rw [hfirst]; exact heven⟩
      rw [hgap, hfirst]
      push_cast
      linarith
    · exact ⟨by rwa [hgap], habove, by rw [hgap]; exact hm.even⟩

theorem Magnitude.Covers.exists_place (hf : f.IsBounded) (hx : x.IsFull f)
    (h : x.Covers f q) : ∃ m e, f.IsPlace q e ∧ Rounds (q / 2 ^ e) m ∧ f.carry m e = x := by
  have hprecise := hf.precise
  have hbelow := h.below
  have habove := h.above
  have hpow := two_pow_pred (show 0 < f.precision by omega)
  have hone : (1 : ℚ) ≤ 2 ^ (f.precision - 1) := one_le_pow₀ one_le_two
  have hsize : (x.mantissa : ℚ) + 1 ≤ 2 ^ f.precision := by exact_mod_cast hx.size
  by_cases hlast : q / 2 ^ x.exponent < 2 ^ (f.precision - 1) ∧
      x.mantissa = 2 ^ (f.precision - 1) ∧ f.lowest < x.exponent
  · -- just below the least number with its exponent, the place is a smaller one
    obtain ⟨hless, hfirst, hplace⟩ := hlast
    have hgap : x.gap f = 1 / 4 := if_pos ⟨hfirst, hplace⟩
    have hdouble := div_zpow_pred q x.exponent
    rw [hgap, hfirst] at hbelow
    push_cast at hbelow
    refine ⟨2 ^ f.precision, x.exponent - 1, ⟨by omega, ?_, .inr ?_⟩, ⟨?_, ?_, fun _ => ?_⟩, ?_⟩
    · linarith
    · linarith
    · rw [hdouble]
      push_cast
      linarith
    · rw [hdouble]
      push_cast
      linarith
    · exact two_pow_even (by omega)
    · rw [Format.carry, if_pos rfl, ← hfirst, Int.sub_add_cancel]
  · refine ⟨x.mantissa, x.exponent, ⟨hx.least, by linarith, ?_⟩, ⟨?_, habove, ?_⟩, ?_⟩
    · refine or_iff_not_imp_left.mpr fun hplace => ?_
      have hleast := hx.least
      rcases eq_or_lt_of_le (hx.full.resolve_left hplace) with hfirst | hmore
      · refine not_lt.mp fun hless => hlast ⟨hless, hfirst.symm, by omega⟩
      · have hcast : (2 : ℚ) ^ (f.precision - 1) + 1 ≤ x.mantissa := by exact_mod_cast hmore
        linarith [x.gap_le f]
    · linarith [x.gap_le f]
    · rintro (hend | hend)
      · rcases x.gap_cases f with ⟨hgap, -⟩ | ⟨hgap, -⟩
        · linarith
        · exact h.even (.inl (by rw [hgap, hend]))
      · exact h.even (.inr hend)
    · exact if_neg hx.size.ne

/-- A quotient is rounded to the number of a format in whose interval it lies. -/
theorem Format.round?_eq_some_iff (hf : f.IsBounded) (num : Nat) {den : Nat} (hden : 0 < den)
    (x : Magnitude) : f.round? num den = some x ↔ x.IsOf f ∧ x.Covers f (num / den) := by
  constructor
  · intro h
    obtain ⟨m, e, he, hm⟩ := f.exists_place hf num hden
    rw [Format.round?_of_place hf hden he hm] at h
    split at h
    · cases h
    · rename_i hgreatest
      cases h
      exact ⟨⟨he.carry_isFull hf hm, not_lt.mp hgreatest⟩, he.carry_covers hf hm⟩
  · rintro ⟨hx, hcovers⟩
    obtain ⟨m, e, he, hm, rfl⟩ := hcovers.exists_place hf hx.toIsFull
    rw [Format.round?_of_place hf hden he hm, if_neg hx.greatest.not_gt]

theorem Format.IsPlace.carries_iff (hf : f.IsBounded) (he : f.IsPlace q e)
    (hm : Rounds (q / 2 ^ e) m) :
    m = 2 ^ f.precision ↔ (2 : ℚ) ^ f.precision - 1 / 2 ≤ q / 2 ^ e := by
  have hprecise := hf.precise
  constructor
  · intro htop
    have hbelow := hm.below
    rw [htop] at hbelow
    exact_mod_cast hbelow
  · intro h
    refine le_antisymm (he.rounds_le hm) (not_lt.mp fun hless => ?_)
    have habove := hm.above
    have hcast : (m : ℚ) + 1 ≤ 2 ^ f.precision := by exact_mod_cast hless
    have hend : (m : ℚ) + 1 = 2 ^ f.precision := by linarith
    have hnat : m + 1 = 2 ^ f.precision := by exact_mod_cast hend
    -- the last mantissa is odd, and half a place above it goes to the power of two
    have hodd := hm.even (.inr (by linarith))
    have heven := two_pow_even (show 0 < f.precision by omega)
    omega

theorem Format.round?_eq_none_iff (hf : f.IsBounded) (num : Nat) {den : Nat} (hden : 0 < den) :
    f.round? num den = none ↔ ((2 : ℚ) ^ f.precision - 1 / 2) * 2 ^ f.highest ≤ num / den := by
  have hprecise := hf.precise
  have hordered := hf.ordered
  have hpow := two_pow_pred (show 0 < f.precision by omega)
  have hone : (1 : ℚ) ≤ 2 ^ (f.precision - 1) := one_le_pow₀ one_le_two
  obtain ⟨m, e, he, hm⟩ := f.exists_place hf num hden
  have hnonneg : (0 : ℚ) ≤ num / den := by positivity
  have hcarry : (f.carry m e).exponent = if m = 2 ^ f.precision then e + 1 else e := by
    unfold Format.carry
    split <;> rfl
  rw [Format.round?_of_place hf hden he hm, ite_eq_left_iff, ← le_div_iff₀ (two_zpow_pos _)]
  generalize (num : ℚ) / den = q at *
  simp only [reduceCtorEq, imp_false, not_not, hcarry]
  rcases lt_trichotomy e f.highest with hless | rfl | hmore
  · have hhalf : q / 2 ^ f.highest ≤ q / 2 ^ e / 2 := by
      rw [← div_zpow_succ]
      exact div_le_div_of_nonneg_left hnonneg (two_zpow_pos _) (two_zpow_le hless)
    have hbelow := he.below
    exact iff_of_false (by split <;> omega) (by linarith)
  · rw [← he.carries_iff hf hm]
    split
    · rename_i htop
      exact iff_of_true (by omega) htop
    · rename_i hne
      exact iff_of_false (lt_irrefl _) hne
  · have hleast := he.least
    have hfull := he.full.resolve_left (by omega)
    have hdouble : 2 * (q / 2 ^ e) ≤ q / 2 ^ f.highest := by
      rw [← div_zpow_pred]
      exact div_le_div_of_nonneg_left hnonneg (two_zpow_pos _) (two_zpow_le (by omega))
    exact iff_of_true (by split <;> omega) (by linarith)

theorem Magnitude.round?_eq_some_iff (hf : f.IsBounded) (x y : Magnitude) :
    x.round? f = some y ↔ y.IsOf f ∧ y.Covers f x.toRat := by
  rw [Magnitude.round?, f.round?_eq_some_iff hf _ x.quotient_den_pos, x.quotient_ratio]

end Format

end RawSeries.Decimal
