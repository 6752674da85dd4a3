import RawSeries.Bytes.Successor

namespace RawSeries.Bytes

theorem before_iff (a b : Bytes) : before a b = true ↔ a < b := by
  simp [before]

theorem not_before_iff (a b : Bytes) : before a b = false ↔ b ≤ a := by
  simp [before]

theorem before_trans {a b c : Bytes} (h : before a b = true) (h' : before b c = true) :
    before a c = true := by
  rw [before_iff] at h h' ⊢
  exact List.lt_trans h h'

theorem before_of_ne {a b : Bytes} (h : before b a = false) (hne : a ≠ b) : before a b = true := by
  rw [not_before_iff] at h
  rw [before_iff]
  exact (List.le_iff_lt_or_eq.mp h).resolve_right hne

theorem not_before_trans {a b c : Bytes} (h : before b a = false) (h' : before c b = false) :
    before c a = false := by
  rw [not_before_iff] at h h' ⊢
  exact List.le_trans h h'

theorem not_before_total (a b : Bytes) : before b a = false ∨ before a b = false := by
  rw [not_before_iff, not_before_iff]
  exact List.le_total a b

theorem lt_append_zero_iff (a b : Bytes) : a < b ++ [0] ↔ a < b ∨ a = b := by
  induction b generalizing a with
  | nil =>
      cases a with
      | nil => simp
      | cons x a => simp only [List.nil_append, List.cons_lt_cons_iff, List.not_lt_nil]; simp
  | cons y b ih =>
      cases a with
      | nil => simp
      | cons x a =>
          simp only [List.cons_append, List.cons_lt_cons_iff, ih, List.cons.injEq]
          constructor
          · rintro (hlt | ⟨rfl, hlt | rfl⟩)
            · exact .inl (.inl hlt)
            · exact .inl (.inr ⟨rfl, hlt⟩)
            · exact .inr ⟨rfl, rfl⟩
          · rintro ((hlt | ⟨rfl, hlt⟩) | ⟨rfl, rfl⟩)
            · exact .inl hlt
            · exact .inr ⟨rfl, .inl hlt⟩
            · exact .inr ⟨rfl, .inr rfl⟩

theorem cons_le_cons_iff {x y : UInt8} {a b : Bytes} :
    x :: a ≤ y :: b ↔ x < y ∨ x = y ∧ a ≤ b := by
  rw [List.le_iff_lt_or_eq, List.le_iff_lt_or_eq, List.cons_lt_cons_iff, List.cons.injEq]
  constructor
  · rintro ((hlt | ⟨heq, hlt⟩) | ⟨heq, hrest⟩)
    · exact .inl hlt
    · exact .inr ⟨heq, .inl hlt⟩
    · exact .inr ⟨heq, .inr hrest⟩
  · rintro (hlt | ⟨heq, hlt | hrest⟩)
    · exact .inl (.inl hlt)
    · exact .inl (.inr ⟨heq, hlt⟩)
    · exact .inr ⟨heq, hrest⟩

theorem toNat_le (x : UInt8) : x.toNat ≤ 255 :=
  Nat.le_of_lt_succ x.toNat_lt

theorem lt_add_one_iff {x : UInt8} (h : x ≠ 255) (y : UInt8) : y < x + 1 ↔ ¬x < y := by
  have hx : x.toNat < 255 :=
    Nat.lt_of_le_of_ne (toNat_le x) fun heq => h (UInt8.toNat_inj.mp heq)
  have hsum : (x + 1).toNat = x.toNat + 1 := by
    rw [UInt8.toNat_add, UInt8.toNat_one, Nat.mod_eq_of_lt (by omega)]
  rw [UInt8.lt_iff_toNat_lt, UInt8.lt_iff_toNat_lt, hsum]
  omega

theorem isPrefixOf_iff (start key : Bytes) :
    start.isPrefixOf key = true ↔ start ≤ key ∧ (successor start = [] ∨ key < successor start) := by
  induction start generalizing key with
  | nil => simp [successor]
  | cons x start ih =>
      cases key with
      | nil => simp
      | cons y key =>
          rw [List.isPrefixOf_cons_cons, Bool.and_eq_true, beq_iff_eq, ih key, cons_le_cons_iff]
          -- Without a successor of the rest, the first byte is the one to raise.
          rcases hnext : successor start with _ | ⟨z, rest⟩
          · by_cases hx : x = 255
            · have hsucc : successor (x :: start) = [] := by simp [successor, hnext, hx]
              have hnot : ¬x < y := by
                rw [hx, UInt8.lt_iff_toNat_lt]
                exact Nat.not_lt.mpr (toNat_le y)
              simp [hsucc, hnot]
            · have hsucc : successor (x :: start) = [x + 1] := by simp [successor, hnext, hx]
              rw [hsucc, List.cons_lt_cons_iff, lt_add_one_iff hx]
              grind [List.not_lt_nil]
          · have hsucc : successor (x :: start) = x :: z :: rest := by simp [successor, hnext]
            rw [hsucc, List.cons_lt_cons_iff]
            grind [UInt8.lt_asymm]

theorem exceeds_iff (p b : Bytes) :
    (∀ k, p <+: k → k < b) ↔ successor p ≠ [] ∧ successor p ≤ b := by
  constructor
  · intro h
    have hle : p ≤ b := List.le_of_lt (h p List.prefix_rfl)
    have hnot : ¬p.isPrefixOf b = true :=
      fun hb => List.lt_irrefl b (h b (List.isPrefixOf_iff_prefix.mp hb))
    rw [isPrefixOf_iff] at hnot
    exact ⟨fun hnone => hnot ⟨hle, .inl hnone⟩,
      List.not_lt.mp fun hless => hnot ⟨hle, .inr hless⟩⟩
  · rintro ⟨hne, hle⟩ k hk
    have hless := ((isPrefixOf_iff p k).mp (List.isPrefixOf_iff_prefix.mpr hk)).2.resolve_left hne
    rcases List.le_iff_lt_or_eq.mp hle with hmore | heq
    · exact List.lt_trans hless hmore
    · exact heq ▸ hless

/-- The successor is the exact end of the byte strings with a beginning: they are those from the
beginning on and before it, and it is the least byte string above all of them. Without a successor,
nothing is above all of them. -/
theorem successor_bounds (p : Bytes) :
    (∀ k, p <+: k ↔ p ≤ k ∧ (successor p = [] ∨ k < successor p)) ∧
      ∀ b, (∀ k, p <+: k → k < b) ↔ successor p ≠ [] ∧ successor p ≤ b := by
  refine ⟨fun k => ?_, exceeds_iff p⟩
  rw [← List.isPrefixOf_iff_prefix, isPrefixOf_iff]

end RawSeries.Bytes
