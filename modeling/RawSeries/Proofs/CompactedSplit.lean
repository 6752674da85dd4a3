import RawSeries.Fault

namespace RawSeries.Compacted

/-- Points as they are stored: two bytes of qualifier without the nibble of ones, or four with it.
The last byte of the qualifier declares the length of the value. -/
inductive Stored : Cell → Prop where
  | seconds (x y : UInt8) (value : Bytes) (hx : x.toNat / 16 ≠ 15)
      (hvalue : value.length = y.toNat % 8 + 1) : Stored ⟨[x, y], value⟩
  | millis (x y z w : UInt8) (value : Bytes) (hx : x.toNat / 16 = 15)
      (hvalue : value.length = w.toNat % 8 + 1) : Stored ⟨[x, y, z, w], value⟩

/-- Points that can be joined to a compacted column. -/
structure Valid (p : Compacted) : Prop where
  nonempty : p.cells ≠ []
  stored : ∀ c ∈ p.cells, Stored c
  trailer : p.trailer = [] ∨ p.trailer = [0] ∨ p.trailer = [1]

theorem marksMillis_iff (x : UInt8) : Qualifier.marksMillis x = true ↔ x.toNat / 16 = 15 := by
  have := x.toNat_lt
  simp only [Qualifier.marksMillis, decide_eq_true_eq]
  omega

theorem width_cons (x : UInt8) (rest : Bytes) :
    Qualifier.width (x :: rest) = if x.toNat / 16 = 15 then 4 else 2 := by
  simp [Qualifier.width, Qualifier.millis, Qualifier.millis?, marksMillis_iff]

theorem isTrailer_iff (b : Bytes) : isTrailer b = true ↔ b = [] ∨ b = [0] ∨ b = [1] := by
  simp [isTrailer, or_assoc]

theorem Stored.qualifier_ne_nil {c : Cell} (h : Stored c) : c.qualifier ≠ [] := by
  cases h <;> simp

theorem Stored.width_append {c : Cell} (h : Stored c) (rest : Bytes) :
    Qualifier.width (c.qualifier ++ rest) = c.qualifier.length := by
  cases h with
  | seconds x y value hx => simp [width_cons, hx]
  | millis x y z w value hx => simp [width_cons, hx]

theorem Stored.valueLength {c : Cell} (h : Stored c) :
    Qualifier.valueLength (Qualifier.flags c.qualifier) = c.value.length := by
  cases h with
  | seconds x y value hx hvalue =>
      simp [Qualifier.valueLength, Qualifier.flags, Qualifier.flags?, width_cons, hx, hvalue]
  | millis x y z w value hx hvalue =>
      simp [Qualifier.valueLength, Qualifier.flags, Qualifier.flags?, width_cons, hx, hvalue]

theorem stored_take {x : UInt8} {rest value : Bytes}
    (hwidth : Qualifier.width (x :: rest) ≤ (x :: rest).length)
    (hvalue : value.length = Qualifier.valueLength
      (Qualifier.flags ((x :: rest).take (Qualifier.width (x :: rest))))) :
    Stored ⟨(x :: rest).take (Qualifier.width (x :: rest)), value⟩ := by
  by_cases hx : x.toNat / 16 = 15
  · simp only [width_cons, hx, if_true] at hwidth hvalue ⊢
    obtain ⟨y, z, w, more, rfl⟩ : ∃ y z w more, rest = y :: z :: w :: more := by
      rcases rest with _ | ⟨y, _ | ⟨z, _ | ⟨w, more⟩⟩⟩
      all_goals simp at hwidth ⊢
    refine .millis x y z w value hx ?_
    simpa [Qualifier.valueLength, Qualifier.flags, Qualifier.flags?, width_cons, hx] using hvalue
  · simp only [width_cons, hx, if_false] at hwidth hvalue ⊢
    obtain ⟨y, more, rfl⟩ : ∃ y more, rest = y :: more := by
      rcases rest with _ | ⟨y, more⟩
      all_goals simp at hwidth ⊢
    refine .seconds x y value hx ?_
    simpa [Qualifier.valueLength, Qualifier.flags, Qualifier.flags?, width_cons, hx] using hvalue

theorem peel_append {c : Cell} (h : Stored c) (length index : Nat) (q v : Bytes) :
    peel length index (c.qualifier ++ q) (c.value ++ v) =
      (peel length (index + 1) q v).map fun r => (c :: r.1, r.2) := by
  obtain ⟨x, rest, hq⟩ := List.exists_cons_of_ne_nil h.qualifier_ne_nil
  have hwidth := h.width_append q
  have hvalue := h.valueLength
  rw [hq, List.cons_append] at hwidth
  rw [hq] at hvalue
  have htake : (x :: (rest ++ q)).take (x :: rest).length = x :: rest := by simp
  have hdrop : (rest ++ q).drop ((x :: rest).length - 1) = q := by simp
  rw [hq, List.cons_append, peel]
  simp only [hwidth, htake, hdrop, hvalue]
  rw [if_neg (by simp), if_neg (by simp), List.drop_left, List.take_left]
  cases hpeel : peel length (index + 1) q v with
  | error flaw => rfl
  | ok r =>
      change Except.ok ((⟨x :: rest, c.value⟩ : Cell) :: r.1, r.2) = .ok (c :: r.1, r.2)
      rw [← hq]

/-- What is peeled off first is a stored point at the front of both buffers. -/
theorem exists_stored_of_peel {length index : Nat} {x : UInt8} {rest v : Bytes}
    {cells : List Cell} {left : Bytes} (h : peel length index (x :: rest) v = .ok (cells, left)) :
    ∃ c more q v', Stored c ∧ cells = c :: more ∧ x :: rest = c.qualifier ++ q ∧
      v = c.value ++ v' ∧ peel length (index + 1) q v' = .ok (more, left) := by
  rw [peel] at h
  split at h
  · contradiction
  rename_i hwidth
  dsimp only at h
  split at h
  · contradiction
  rename_i hvalue
  let declared := Qualifier.valueLength
    (Qualifier.flags ((x :: rest).take (Qualifier.width (x :: rest))))
  let c : Cell := ⟨(x :: rest).take (Qualifier.width (x :: rest)), v.take declared⟩
  let q := rest.drop (Qualifier.width (x :: rest) - 1)
  have hlength : (v.take declared).length = declared := by
    rw [List.length_take]
    omega
  have hstored : Stored c := stored_take (by omega) hlength
  have hpos : Qualifier.width (x :: rest) ≠ 0 := by
    rw [width_cons]
    split <;> decide
  obtain ⟨n, hn⟩ := Nat.exists_eq_succ_of_ne_zero hpos
  have hq : x :: rest = c.qualifier ++ q := by
    simp only [c, q, hn, Nat.succ_sub_one]
    exact (List.take_append_drop (n + 1) (x :: rest)).symm
  cases hpeel : peel length (index + 1) q (v.drop declared) with
  | error flaw =>
      rw [hpeel] at h
      contradiction
  | ok r =>
      rw [hpeel] at h
      obtain ⟨rfl, rfl⟩ := Prod.mk.inj (Except.ok.inj h)
      exact ⟨c, r.1, q, v.drop declared, hstored, rfl, hq,
        (List.take_append_drop declared v).symm, hpeel⟩

theorem peel_eq_ok_iff (length index : Nat) (q v : Bytes) (cells : List Cell) (left : Bytes) :
    peel length index q v = .ok (cells, left) ↔
      (∀ c ∈ cells, Stored c) ∧ q = cells.flatMap Cell.qualifier ∧
        v = cells.flatMap Cell.value ++ left := by
  constructor
  · intro h
    -- The cells are the outcome of the peeling, and there is one for each of its rounds.
    induction cells generalizing index q v with
    | nil =>
        rcases q with _ | ⟨x, rest⟩
        · simpa [peel, eq_comm] using h
        · obtain ⟨_, _, _, _, _, hcells, _⟩ := exists_stored_of_peel h
          contradiction
    | cons c cells ih =>
        rcases q with _ | ⟨x, rest⟩
        · simp [peel] at h
        · obtain ⟨d, more, q', v', hd, hcells, hq, hv, hpeel⟩ := exists_stored_of_peel h
          obtain ⟨rfl, rfl⟩ := List.cons.inj hcells
          obtain ⟨hstored, rfl, rfl⟩ := ih (index + 1) q' v' hpeel
          exact ⟨List.forall_mem_cons.mpr ⟨hd, hstored⟩, by simpa using hq, by simpa using hv⟩
  · rintro ⟨hstored, rfl, rfl⟩
    induction cells generalizing index with
    | nil => simp [peel]
    | cons c cells ih =>
        obtain ⟨hc, hcells⟩ := List.forall_mem_cons.mp hstored
        rw [List.flatMap_cons, List.flatMap_cons, List.append_assoc, peel_append hc,
          ih (index + 1) hcells]
        rfl

theorem Valid.qualifier_ne_nil {p : Compacted} (h : p.Valid) : p.join.qualifier ≠ [] := by
  obtain ⟨c, cells, hcells⟩ := List.exists_cons_of_ne_nil h.nonempty
  have hc : Stored c := h.stored c (by simp [hcells])
  simp [join, hcells, hc.qualifier_ne_nil]

theorem split_eq_ok_iff (c : Column) (p : Compacted) :
    split c = .ok p ↔ p.Valid ∧ p.join = c := by
  constructor
  · intro h
    simp only [split] at h
    split at h
    · contradiction
    rename_i hempty
    cases hpeel : peel c.qualifier.length 0 c.qualifier c.value with
    | error flaw =>
        rw [hpeel] at h
        contradiction
    | ok r =>
        obtain ⟨cells, left⟩ := r
        rw [hpeel] at h
        change (if isTrailer left then Except.ok (⟨cells, left⟩ : Compacted)
          else .error (Flaw.leftOver left.length cells.length)) = .ok p at h
        split at h
        · rename_i htrailer
          obtain rfl : ⟨cells, left⟩ = p := by simpa using h
          obtain ⟨hstored, hq, hv⟩ := (peel_eq_ok_iff _ _ _ _ _ _).mp hpeel
          refine ⟨⟨?_, hstored, (isTrailer_iff left).mp htrailer⟩, ?_⟩
          · rintro rfl
            simp [hq] at hempty
          · simp [join, ← hq, ← hv]
        · contradiction
  · rintro ⟨hvalid, rfl⟩
    have hempty : ¬p.join.qualifier.isEmpty := by simpa using hvalid.qualifier_ne_nil
    have hpeel : peel p.join.qualifier.length 0 p.join.qualifier p.join.value =
        .ok (p.cells, p.trailer) :=
      (peel_eq_ok_iff _ _ _ _ _ _).mpr ⟨hvalid.stored, rfl, rfl⟩
    have htrailer : isTrailer p.trailer = true := (isTrailer_iff p.trailer).mpr hvalid.trailer
    simp only [split, if_neg hempty, hpeel]
    change (if isTrailer p.trailer then Except.ok p
      else .error (Flaw.leftOver p.trailer.length p.cells.length)) = .ok p
    rw [if_pos htrailer]

/-- A column splits into some points exactly when they are stored ones that were joined to it, and
any other column is reported as a malformed one. -/
theorem split_iff_join (c : Column) :
    (∀ p : Compacted, split c = .ok p ↔ p.Valid ∧ p.join = c) ∧
      ((¬∃ p : Compacted, p.Valid ∧ p.join = c) ↔
        ∃ flaw, split c = .error flaw ∧ (Fault.compaction flaw).kind = .malformedColumn) := by
  refine ⟨split_eq_ok_iff c, ?_⟩
  constructor
  · intro h
    cases hsplit : split c with
    | error flaw => exact ⟨flaw, rfl, rfl⟩
    | ok p => exact absurd ⟨p, (split_eq_ok_iff c p).mp hsplit⟩ h
  · rintro ⟨flaw, hsplit, _⟩ ⟨p, hp⟩
    rw [(split_eq_ok_iff c p).mpr hp] at hsplit
    contradiction

end RawSeries.Compacted
