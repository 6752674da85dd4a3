import RawSeries.Column.Report
import RawSeries.Proofs.CompactedSplit

namespace RawSeries

namespace Qualifier

/-- The qualifiers of one point, with their flags. -/
inductive Single : Bytes → Nat → Prop where
  | seconds (x y : UInt8) (hx : x.toNat / 16 ≠ 15) : Single [x, y] (y.toNat % 16)
  | millis (x y z w : UInt8) (hx : x.toNat / 16 = 15) : Single [x, y, z, w] (w.toNat % 16)

/-- The first half of a qualifier in milliseconds. -/
inductive Cropped : Bytes → Prop where
  | intro (x y : UInt8) (hx : x.toNat / 16 = 15) : Cropped [x, y]

/-- Whole pairs of bytes that are neither one qualifier nor the half of one. -/
structure Joined (q : Bytes) : Prop where
  even : q.length % 2 = 0
  single : ∀ flags, ¬Single q flags
  cropped : ¬Cropped q

theorem kinds (q : Bytes) :
    q.length % 2 = 1 ∨ (∃ flags, Single q flags) ∨ Cropped q ∨ Joined q := by
  rcases Nat.mod_two_eq_zero_or_one q.length with heven | hodd
  · right
    by_cases hsingle : ∃ flags, Single q flags
    · exact .inl hsingle
    · by_cases hcropped : Cropped q
      · exact .inr (.inl hcropped)
      · exact .inr (.inr ⟨heven, fun flags h => hsingle ⟨flags, h⟩, hcropped⟩)
  · exact .inl hodd

theorem Single.flags?_eq {q : Bytes} {flags : Nat} (h : Single q flags) :
    flags? q = some flags := by
  cases h with
  | seconds x y hx => simp [flags?, Compacted.width_cons, hx]
  | millis x y z w hx => simp [flags?, Compacted.width_cons, hx]

theorem Single.shape {q : Bytes} {flags : Nat} (h : Single q flags) :
    q.length % 2 = 0 ∧ (q.length = 2 ∨ (q.length = 4 ∧ Qualifier.millis q)) := by
  cases h with
  | seconds x y hx => exact ⟨by simp, .inl rfl⟩
  | millis x y z w hx =>
      exact ⟨by simp, .inr ⟨rfl, (Compacted.marksMillis_iff x).mpr hx⟩⟩

theorem Joined.shape {q : Bytes} (h : Joined q) :
    ¬(q.length = 2 ∨ (q.length = 4 ∧ Qualifier.millis q)) := by
  rintro (htwo | ⟨hfour, hmillis⟩)
  · rcases q with _ | ⟨x, _ | ⟨y, _ | ⟨z, rest⟩⟩⟩
    · cases htwo
    · cases htwo
    · by_cases hx : x.toNat / 16 = 15
      · exact h.cropped (.intro x y hx)
      · exact h.single _ (.seconds x y hx)
    · cases htwo
  · rcases q with _ | ⟨x, _ | ⟨y, _ | ⟨z, _ | ⟨w, _ | ⟨v, rest⟩⟩⟩⟩⟩
    · cases hfour
    · cases hfour
    · cases hfour
    · cases hfour
    · exact h.single _ (.millis x y z w ((Compacted.marksMillis_iff x).mp hmillis))
    · cases hfour

end Qualifier

namespace Point

/-- The value of a point, without the zeros that old writers put before a four-byte float. -/
def shortened (flags : Nat) (value : Bytes) : Bytes :=
  if flags = 11 ∧ value.length = 8 ∧ value.take 4 = [0, 0, 0, 0] then value.drop 4 else value

/-- What is wrong with a value that does not have the length which the flags declare. -/
def misfit (flags : Nat) (value : Bytes) : Flaw :=
  if flags = 11 ∧ value.length = 8 then .corruptedFloat value
  else .width value.length (flags % 8 + 1)

end Point

namespace Column

open Qualifier (Single Cropped Joined)

/-- What a column is, and nothing for the half of a qualifier. -/
inductive Reads : Column → Option Decoded → Prop where
  | note (rest value : Bytes) (hodd : (1 :: rest).length % 2 = 1) :
      Reads ⟨1 :: rest, value⟩ (some (.note ⟨1 :: rest, value⟩))
  | foreign (x : UInt8) (rest value : Bytes) (hodd : (x :: rest).length % 2 = 1) (hx : x ≠ 1) :
      Reads ⟨x :: rest, value⟩ (some .foreign)
  | point {q : Bytes} {flags : Nat} (value : Bytes) (hq : Single q flags)
      (hfits : (Point.shortened flags value).length = flags % 8 + 1) :
      Reads ⟨q, value⟩ (some (.point ⟨q, Point.shortened flags value⟩))
  | brokenPoint {q : Bytes} {flags : Nat} (value : Bytes) (hq : Single q flags)
      (hfits : (Point.shortened flags value).length ≠ flags % 8 + 1) :
      Reads ⟨q, value⟩ (some (.brokenPoint (Point.misfit flags value)))
  | compacted (p : Compacted) (hvalid : p.Valid) (hq : Joined p.join.qualifier) :
      Reads p.join (some (.compacted p))
  | brokenCompaction (c : Column) (flaw : Compacted.Flaw) (hq : Joined c.qualifier)
      (hnone : ¬∃ p : Compacted, p.Valid ∧ p.join = c) (hflaw : Compacted.split c = .error flaw) :
      Reads c (some (.brokenCompaction flaw))
  | cropped {q : Bytes} (value : Bytes) (hq : Cropped q) : Reads ⟨q, value⟩ none

theorem decode?_of_single {c : Column} {flags : Nat} (h : Single c.qualifier flags) :
    c.decode? = some (
      if (Point.shortened flags c.value).length = flags % 8 + 1 then
        .point ⟨c.qualifier, Point.shortened flags c.value⟩
      else .brokenPoint (Point.misfit flags c.value)) := by
  obtain ⟨heven, hshape⟩ := h.shape
  rw [decode?, if_neg (by omega), if_pos hshape, decodePoint?, h.flags?_eq, Option.map_some]
  congr 1
  unfold Point.shortenFloat Point.shortened Point.misfit Qualifier.valueLength
  by_cases hfloat : flags = 11 ∧ c.value.length = 8
  · obtain ⟨rfl, hlength⟩ := hfloat
    by_cases hzeros : c.value.take 4 = [0, 0, 0, 0]
    · simp [hlength, hzeros]
    · simp [hlength, hzeros]
  · have hlegacy : ¬(flags = 11 ∧ c.value.length = 8 ∧ c.value.take 4 = [0, 0, 0, 0]) := by
      rintro ⟨hflags, hlength, -⟩
      exact hfloat ⟨hflags, hlength⟩
    rw [if_neg hfloat, if_neg hlegacy, if_neg hfloat]

theorem decode?_of_cropped {c : Column} (h : Cropped c.qualifier) : c.decode? = none := by
  obtain ⟨q, value⟩ := c
  cases h with
  | intro x y hx => simp [decode?, decodePoint?, Qualifier.flags?, Compacted.width_cons, hx]

theorem decode?_of_joined {c : Column} (h : Joined c.qualifier) :
    c.decode? = some (match Compacted.split c with
      | .ok points => .compacted points
      | .error flaw => .brokenCompaction flaw) := by
  have heven := h.even
  rw [decode?, if_neg (by omega), if_neg h.shape]
  cases Compacted.split c with
  | ok points => rfl
  | error flaw => rfl

theorem Reads.decode?_eq {c : Column} {r : Option Decoded} (h : c.Reads r) : c.decode? = r := by
  cases h with
  | note rest value hodd =>
      rw [decode?, if_pos hodd]
      rfl
  | foreign x rest value hodd hx =>
      rw [decode?, if_pos hodd]
      simp [hx]
  | point value hq hfits => exact (decode?_of_single hq).trans (congrArg some (if_pos hfits))
  | brokenPoint value hq hfits => exact (decode?_of_single hq).trans (congrArg some (if_neg hfits))
  | compacted p hvalid hq =>
      rw [decode?_of_joined hq, (Compacted.split_eq_ok_iff p.join p).mpr ⟨hvalid, rfl⟩]
  | brokenCompaction c flaw hq hnone hflaw => rw [decode?_of_joined hq, hflaw]
  | cropped value hq => exact decode?_of_cropped hq

theorem exists_reads (c : Column) : ∃ r, c.Reads r := by
  obtain ⟨q, value⟩ := c
  rcases Qualifier.kinds q with hodd | ⟨flags, hsingle⟩ | hcropped | hjoined
  · rcases q with _ | ⟨x, rest⟩
    · cases hodd
    · by_cases hx : x = 1
      · subst hx
        exact ⟨_, .note rest value hodd⟩
      · exact ⟨_, .foreign x rest value hodd hx⟩
  · by_cases hfits : (Point.shortened flags value).length = flags % 8 + 1
    · exact ⟨_, .point value hsingle hfits⟩
    · exact ⟨_, .brokenPoint value hsingle hfits⟩
  · exact ⟨_, .cropped value hcropped⟩
  · cases hsplit : Compacted.split ⟨q, value⟩ with
    | ok p =>
        obtain ⟨hvalid, hjoin⟩ := (Compacted.split_eq_ok_iff _ p).mp hsplit
        have hq : q = p.join.qualifier := congrArg Column.qualifier hjoin.symm
        rw [← hjoin]
        exact ⟨_, .compacted p hvalid (hq ▸ hjoined)⟩
    | error flaw =>
        refine ⟨_, .brokenCompaction _ flaw hjoined ?_ hsplit⟩
        rintro ⟨p, hp⟩
        rw [(Compacted.split_eq_ok_iff _ p).mpr hp] at hsplit
        cases hsplit

theorem reads_of_decode? {c : Column} {r : Option Decoded} (h : c.decode? = r) : c.Reads r := by
  obtain ⟨s, hs⟩ := exists_reads c
  rw [← h, hs.decode?_eq]
  exact hs

/-- Every column is told to be exactly one thing, unless its qualifier is the half of one. -/
theorem decode?_eq_iff_reads (c : Column) :
    (∀ r, c.decode? = r ↔ c.Reads r) ∧
      (c.decode? = none ↔ ∃ x y : UInt8, c.qualifier = [x, y] ∧ x.toNat / 16 = 15) := by
  have hreads : ∀ r, c.decode? = r ↔ c.Reads r := fun r => ⟨reads_of_decode?, Reads.decode?_eq⟩
  refine ⟨hreads, ?_⟩
  constructor
  · intro hnone
    cases (hreads none).mp hnone with
    | cropped value hq =>
        cases hq with
        | intro x y hx => exact ⟨x, y, rfl, hx⟩
  · rintro ⟨x, y, hq, hx⟩
    apply decode?_of_cropped
    rw [hq]
    exact .intro x y hx

/-- Two bytes of a qualifier in milliseconds are told to be nothing, although no value fits them,
and reports fail at them for want of a byte. -/
theorem decode?_half_qualifier :
    (⟨[240, 0], [0, 0, 0, 0, 0, 0, 0, 0, 0]⟩ : Column).decode? = none ∧
      report .raw [] 0 "load" "" ⟨[240, 0], [0, 0, 0, 0, 0, 0, 0, 0, 0]⟩ =
        .error (.point .missingByte) ∧
      (Fault.point .missingByte).kind = .index := by
  exact ⟨rfl, rfl, rfl⟩

end Column

end RawSeries
