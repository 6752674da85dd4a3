import RawSeries.Text.Numeral

namespace RawSeries.Numeral

theorem digits_lt (n : Nat) : ∀ d ∈ digits n, d < 10 := by
  fun_induction digits n with
  | case1 n hn => simpa using hn
  | case2 n hn ih =>
      intro d hd
      rcases List.mem_append.mp hd with hd | hd
      · exact ih d hd
      · rw [List.mem_singleton.mp hd]
        exact Nat.mod_lt n (by decide)

theorem natural_all {p : Char → Prop} (h : ∀ d < 10, p (digitChar d)) (n : Nat) :
    ∀ c ∈ (natural n).toList, p c := by
  intro c hc
  rw [natural, String.toList_ofList] at hc
  obtain ⟨d, hd, rfl⟩ := List.mem_map.mp hc
  exact h d (digits_lt n d hd)

theorem digits_ne_nil (n : Nat) : digits n ≠ [] := by
  rw [digits]
  split <;> simp

theorem head?_digits {n : Nat} (h : n ≠ 0) : (digits n).head? ≠ some 0 := by
  fun_induction digits n with
  | case1 n hn => simpa using h
  | case2 n hn ih =>
      obtain ⟨d, ds, hds⟩ := List.exists_cons_of_ne_nil (digits_ne_nil (n / 10))
      have hfirst := ih (by omega)
      rw [hds] at hfirst ⊢
      exact hfirst

theorem length_digits_le {k n : Nat} (h : n < Nat.pow 10 k) : (digits n).length ≤ k + 1 := by
  induction k generalizing n with
  | zero =>
      have hn : n < 10 := Nat.lt_of_lt_of_le h (by decide)
      rw [digits, if_pos hn]
      exact Nat.le_refl 1
  | succ k ih =>
      rw [digits]
      split
      · simp
      · have hpow : Nat.pow 10 (k + 1) = Nat.pow 10 k * 10 := rfl
        have hless : n / 10 < Nat.pow 10 k := Nat.div_lt_of_lt_mul (by omega)
        simpa using ih hless

theorem length_natural_le {k n : Nat} (h : n < Nat.pow 10 k) :
    (natural n).toList.length ≤ k + 1 := by
  rw [natural, String.toList_ofList, List.length_map]
  exact length_digits_le h

theorem lt_pow_length (n : Nat) : n < Nat.pow 10 (digits n).length := by
  fun_induction digits n with
  | case1 n hn => exact hn
  | case2 n hn ih =>
      have hpow : Nat.pow 10 ((digits (n / 10)).length + 1) =
          Nat.pow 10 (digits (n / 10)).length * 10 := rfl
      rw [List.length_append, List.length_singleton, hpow]
      omega

theorem pow_length_le {n : Nat} (h : 0 < n) : Nat.pow 10 ((digits n).length - 1) ≤ n := by
  fun_induction digits n with
  | case1 n hn => exact h
  | case2 n hn ih =>
      have hlength : 0 < (digits (n / 10)).length := List.length_pos_iff.mpr (digits_ne_nil _)
      obtain ⟨k, hk⟩ := Nat.exists_eq_succ_of_ne_zero (Nat.ne_of_gt hlength)
      have hpow : Nat.pow 10 (k + 1) = Nat.pow 10 k * 10 := rfl
      have hshorter := ih (by omega)
      rw [List.length_append, List.length_singleton, Nat.add_sub_cancel, hk, hpow]
      rw [hk, Nat.succ_sub_one] at hshorter
      omega

theorem length_digits_le_of_lt {k n : Nat} (hk : 0 < k) (h : n < Nat.pow 10 k) :
    (digits n).length ≤ k := by
  obtain ⟨k, rfl⟩ := Nat.exists_eq_succ_of_ne_zero (Nat.ne_of_gt hk)
  rcases Nat.eq_zero_or_pos n with rfl | hn
  · rw [digits, if_pos (by decide)]
    exact hk
  · refine Nat.le_of_not_lt fun hmore => ?_
    have hpow : Nat.pow 10 (k + 1) ≤ Nat.pow 10 ((digits n).length - 1) :=
      Nat.pow_le_pow_right (by decide) (by omega)
    exact Nat.lt_irrefl n (Nat.lt_of_lt_of_le h (Nat.le_trans hpow (pow_length_le hn)))

end RawSeries.Numeral
