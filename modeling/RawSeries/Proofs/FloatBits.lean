import RawSeries.Decimal.Notation
import RawSeries.Proofs.BigEndian
import RawSeries.Proofs.Rounding

namespace RawSeries.Decimal

theorem bits_split (bits k w : Nat) :
    bits / 2 ^ (k + w) * 2 ^ (k + w) + bits / 2 ^ k % 2 ^ w * 2 ^ k + bits % 2 ^ k = bits := by
  have hfraction := Nat.div_add_mod bits (2 ^ k)
  have hfield := Nat.div_add_mod (bits / 2 ^ k) (2 ^ w)
  rw [Nat.div_div_eq_div_mul, ← Nat.pow_add] at hfield
  calc bits / 2 ^ (k + w) * 2 ^ (k + w) + bits / 2 ^ k % 2 ^ w * 2 ^ k + bits % 2 ^ k
      = 2 ^ k * (2 ^ w * (bits / 2 ^ (k + w)) + bits / 2 ^ k % 2 ^ w) + bits % 2 ^ k := by
        rw [Nat.pow_add]
        ring
    _ = bits := by rw [hfield, hfraction]

namespace Binary

variable {f : Format} {bits : Nat}

theorem ofBits_isOf (hf : f.IsBounded) {negative : Bool} {size : Magnitude}
    (h : ofBits f bits = .finite negative size) : size.IsOf f := by
  have hprecise := hf.precise
  have hpow : 2 ^ f.precision = 2 * 2 ^ (f.precision - 1) := by
    rw [← Nat.pow_succ', Nat.succ_eq_add_one, Nat.sub_add_cancel (by omega)]
  have hfraction := Nat.mod_lt bits (Nat.two_pow_pos (f.precision - 1))
  have hfield := Nat.mod_lt (bits / 2 ^ (f.precision - 1)) (Nat.two_pow_pos f.exponentBits)
  simp only [ofBits, Nat.pow_eq] at h
  split at h
  · split at h <;> cases h
  · rename_i htop
    split at h
    · cases h
      exact ⟨⟨by dsimp only; omega, le_rfl, .inl rfl⟩, hf.ordered⟩
    · cases h
      refine ⟨⟨by dsimp only; omega, by dsimp only; omega, .inr (Nat.le_add_right _ _)⟩, ?_⟩
      simp only [Format.highest, Nat.pow_eq]
      omega

theorem toBits_ofBits (hf : f.IsBounded) (hbits : bits < 2 ^ (f.precision + f.exponentBits))
    (h : ofBits f bits ≠ .nan) : (ofBits f bits).toBits f = bits := by
  have hprecise := hf.precise
  have hsplit := bits_split bits (f.precision - 1) f.exponentBits
  have hsign : bits / 2 ^ (f.precision - 1 + f.exponentBits) < 2 := by
    rw [Nat.div_lt_iff_lt_mul (Nat.two_pow_pos _), ← Nat.pow_succ']
    exact hbits.trans_eq (by congr 1; omega)
  have hfraction := Nat.mod_lt bits (Nat.two_pow_pos (f.precision - 1))
  have hsigned : (if bits / 2 ^ (f.precision - 1 + f.exponentBits) % 2 == 1 then
      2 ^ (f.precision - 1 + f.exponentBits) else 0) =
        bits / 2 ^ (f.precision - 1 + f.exponentBits) *
          2 ^ (f.precision - 1 + f.exponentBits) := by
    rcases Nat.le_one_iff_eq_zero_or_eq_one.mp (Nat.le_of_lt_succ hsign) with hbit | hbit <;>
      simp [hbit]
  simp only [ofBits, Nat.pow_eq] at h ⊢
  split at h
  · rename_i htop
    rw [if_pos htop]
    split at h
    · rename_i hzero
      rw [if_pos hzero]
      simp only [toBits, Nat.pow_eq]
      rw [hsigned, ← htop]
      omega
    · exact absurd rfl h
  · rename_i htop
    rw [if_neg htop]
    split
    · rename_i hfield
      simp only [toBits, Nat.pow_eq]
      rw [if_pos hfraction, hsigned]
      rw [hfield] at hsplit
      omega
    · rename_i hfield
      simp only [toBits, Nat.pow_eq]
      rw [if_neg (Nat.not_lt.mpr (Nat.le_add_right _ _)), hsigned]
      have hplace : (f.lowest + ((bits / 2 ^ (f.precision - 1) % 2 ^ f.exponentBits : Nat) - 1) -
          f.lowest + 1 : Int).toNat = bits / 2 ^ (f.precision - 1) % 2 ^ f.exponentBits := by
        omega
      rw [hplace, Nat.add_sub_cancel_left]
      exact hsplit

theorem encode_toBits {f : Format} (hf : f.IsBounded) {b : Bytes}
    (hlength : f.precision + f.exponentBits = 8 * b.length) (hnan : ofBytes f b ≠ .nan) :
    Bytes.encode b.length ((ofBytes f b).toBits f) = b := by
  have hbits : Bytes.value b < 2 ^ (f.precision + f.exponentBits) := by
    rw [hlength, Nat.pow_mul]
    exact Bytes.value_lt b
  rw [ofBytes, toBits_ofBits hf hbits hnan, Bytes.encode_value]

end Binary

end RawSeries.Decimal
