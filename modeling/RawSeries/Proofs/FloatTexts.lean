import RawSeries.Proofs.FloatBits
import RawSeries.Proofs.NumberTexts
import RawSeries.Proofs.ShortestDecimals

namespace RawSeries

namespace Decimal

namespace Binary

/-- The double nearest to the decimal that a text writes, or an infinite one. -/
def ofChars? (cs : List Char) : Option Binary :=
  let (negative, rest) := splitSign cs
  if rest = "inf".toList then some (.infinite negative)
  else (Number.ofChars? rest).map (Number.toDouble negative)

def toSingle : Binary → Binary
  | .nan => .nan
  | .infinite negative => .infinite negative
  | .finite negative size =>
      match size.round? single with
      | some narrow => .finite negative narrow
      | none => .infinite negative

theorem ofChars?_shortest (negative : Bool) {size : Magnitude} (h : size.IsOf double) :
    ofChars? ((if negative then "-" else "") ++ (shortest double size).text plainLayout).toList =
      some (.finite negative size) := by
  obtain ⟨y, hread, hvalue⟩ := ofChars?_text (shortest double size)
  obtain ⟨hsign, hword⟩ := splitSign_unsigned (unsigned_shortest double size) negative
  have hround : y.round? double = some size := by
    rw [Number.round?_eq_some_iff double_isBounded, hvalue]
    exact ⟨h, shortest_covers (show (53 : Nat) ≤ 53 by decide) h.toIsFull⟩
  rw [String.toList_append]
  simp only [ofChars?, hsign, if_neg hword, hread, Option.map_some, Number.toDouble, hround]

theorem exists_shift {m : Nat} (hne : m ≠ 0) (hm : m < 2 ^ 53) :
    ∃ k ≤ 52, 2 ^ 52 ≤ m * 2 ^ k ∧ m * 2 ^ k < 2 ^ 53 := by
  have hlog : Nat.log2 m < 53 := (Nat.log2_lt hne).mpr hm
  obtain ⟨k, hk⟩ : ∃ k, Nat.log2 m + k = 52 := ⟨52 - Nat.log2 m, by omega⟩
  refine ⟨k, by omega, ?_, ?_⟩
  · rw [← hk, Nat.pow_add]
    exact Nat.mul_le_mul_right _ (Nat.log2_self_le hne)
  · have hpow : 2 ^ 53 = 2 ^ (Nat.log2 m + 1) * 2 ^ k := by
      rw [← Nat.pow_add]
      congr 1
      omega
    rw [hpow]
    exact Nat.mul_lt_mul_of_pos_right Nat.lt_log2_self (Nat.two_pow_pos k)

theorem exists_double {n : Nat} {e : Int} (hn : n < 2 ^ 53) (hlow : -1022 ≤ e) (hhigh : e ≤ 971) :
    ∃ wide : Magnitude, wide.IsOf double ∧ wide.toRat = n * 2 ^ e := by
  have hbits : double.lowest = -1074 ∧ double.highest = 971 := by decide
  by_cases hzero : n = 0
  · refine ⟨⟨0, double.lowest⟩, Magnitude.isOf_zero double_isBounded, ?_⟩
    rw [Magnitude.toRat_zero rfl, hzero, Nat.cast_zero, zero_mul]
  · obtain ⟨k, hk, hfirst, hlast⟩ := exists_shift hzero hn
    refine ⟨⟨n * 2 ^ k, e - k⟩, ⟨⟨hlast, ?_, .inr hfirst⟩, ?_⟩, ?_⟩
    · dsimp only
      omega
    · dsimp only
      omega
    · have hne : (2 : ℚ) ^ k ≠ 0 := by positivity
      rw [Magnitude.toRat, zpow_sub₀ two_ne_zero, zpow_natCast]
      push_cast
      field_simp

theorem exists_wide {size : Magnitude} (h : size.IsOf single) :
    ∃ wide : Magnitude, wide.IsOf double ∧ wide.toRat = size.toRat := by
  have hbits : single.lowest = -149 ∧ single.highest = 104 := by decide
  have hnarrow : 2 ^ 24 ≤ 2 ^ 53 := Nat.pow_le_pow_right two_pos (by decide)
  have hleast := h.least
  have hgreatest := h.greatest
  exact exists_double (h.size.trans_le hnarrow) (by omega) (by omega)

theorem singleTextFrom_reads {x : Magnitude} {tries count : Nat} {text : String}
    (h : singleTextFrom x tries count = some text) :
    ∃ number, readsBackText? x number = some text := by
  induction tries generalizing count with
  | zero => cases h
  | succ tries ih =>
      rw [singleTextFrom] at h
      split at h
      · rename_i found hfound
        exact ⟨_, hfound.trans h⟩
      · exact ih h

theorem readsBackText?_wide {x : Magnitude} {number : Number} {text : String}
    (h : readsBackText? x number = some text) :
    ∃ wide : Magnitude, wide.IsOf double ∧ wide.Covers double number.toRat ∧
      wide.round? single = some x ∧ text = (shortest double wide).text plainLayout := by
  obtain ⟨wide, hwide, hrest⟩ := Option.bind_eq_some_iff.mp h
  obtain ⟨narrow, hnarrow, htext⟩ := Option.bind_eq_some_iff.mp hrest
  split at htext
  · rename_i heq
    subst heq
    obtain ⟨hof, hcovers⟩ := (number.round?_eq_some_iff double_isBounded wide).mp hwide
    exact ⟨wide, hof, hcovers, hnarrow, (Option.some.inj htext).symm⟩
  · cases htext

theorem text_zero (f : Format) (e : Int) : (shortest f ⟨0, e⟩).text plainLayout = "0.0" := by
  have hdigits : Numeral.digits 0 = [0] := by rw [Numeral.digits, if_pos (by decide)]
  rw [shortest, if_pos rfl, Number.text, hdigits]
  rfl

/-- The text of a four-byte number is the shortest one of a double that is rounded to it. -/
theorem singleText_eq (negative : Bool) {size : Magnitude} (h : size.IsOf single) :
    ∃ wide : Magnitude, wide.IsOf double ∧ wide.round? single = some size ∧
      (Binary.finite negative size).singleText =
        (if negative then "-" else "") ++ (shortest double wide).text plainLayout := by
  obtain ⟨wide, hwide, hvalue⟩ := exists_wide h
  have hnarrow : wide.round? single = some size := by
    rw [wide.round?_eq_some_iff single_isBounded, hvalue]
    exact ⟨h, size.covers_toRat single⟩
  have hexact : size.round? double = some wide := by
    rw [size.round?_eq_some_iff double_isBounded, ← hvalue]
    exact ⟨hwide, wide.covers_toRat double⟩
  simp only [singleText]
  split
  · rename_i hzero
    refine ⟨⟨0, double.lowest⟩, Magnitude.isOf_zero double_isBounded, ?_, by rw [text_zero]⟩
    rw [Magnitude.round?_eq_some_iff single_isBounded, Magnitude.toRat_zero rfl,
      ← Magnitude.toRat_zero hzero]
    exact ⟨h, size.covers_toRat single⟩
  · split
    · rename_i text htext
      obtain ⟨number, hnumber⟩ := singleTextFrom_reads htext
      obtain ⟨read, hread, -, hback, rfl⟩ := readsBackText?_wide hnumber
      exact ⟨read, hread, hback, rfl⟩
    · refine ⟨wide, hwide, hnarrow, ?_⟩
      rw [hexact]
      rfl

theorem ofChars?_text {b : Bytes} (hnan : ofBytes double b ≠ .nan) :
    ofChars? (ofBytes double b).text.toList = some (ofBytes double b) := by
  cases hx : ofBytes double b with
  | nan => exact absurd hx hnan
  | infinite negative => cases negative <;> rfl
  | finite negative size => exact ofChars?_shortest negative (ofBits_isOf double_isBounded hx)

theorem ofChars?_singleText {b : Bytes} (hnan : ofBytes single b ≠ .nan) :
    (ofChars? (ofBytes single b).singleText.toList).map toSingle = some (ofBytes single b) := by
  cases hx : ofBytes single b with
  | nan => exact absurd hx hnan
  | infinite negative => cases negative <;> rfl
  | finite negative size =>
      obtain ⟨wide, hwide, hnarrow, htext⟩ :=
        singleText_eq negative (ofBits_isOf single_isBounded hx)
      rw [htext, ofChars?_shortest negative hwide, Option.map_some, toSingle, hnarrow]

end Binary

end Decimal

end RawSeries
