import RawSeries.Column.Decoded
import RawSeries.Proofs.BigEndian
import RawSeries.Proofs.ColumnShapes

namespace RawSeries

namespace Qualifier

/-- What the decoders read off the qualifier at the start of a byte string. -/
structure Decodes (q : Bytes) (millis : Bool) (offset flags : Nat) : Prop where
  millis : millisAt? q 0 = some millis
  offset : offsetAt? q 0 = some offset
  flags : flagsAt? q 0 = some flags

/-- The milliseconds in one step of an offset. -/
def unit (millis : Bool) : Nat :=
  if millis then 1 else 1000

/-- A qualifier with its unused bits zero. -/
def clearUnused : Bytes → Bytes
  | [x, y, z, w] => [x, y, z, w &&& 207]
  | q => q

theorem millisAt?_zero (q : Bytes) : millisAt? q 0 = millis? q := by
  cases q with
  | nil => rfl
  | cons x rest => rfl

theorem slice_zero (q : Bytes) (n : Nat) : q.slice 0 n = q.take n := by
  have hn : ¬(n : Int) < 0 := by omega
  simp [Bytes.slice, Bytes.fromStart, hn]

theorem offsetAt?_zero (q : Bytes) : offsetAt? q 0 = offset? q := by
  cases q with
  | nil => rfl
  | cons x rest =>
      have hfour := slice_zero (x :: rest) 4
      have htwo := slice_zero (x :: rest) 2
      have hmillis : millis (x :: rest) = marksMillis x := rfl
      rw [offsetAt?, millisAt?_zero, offset?, offset, hmillis]
      simp only [millis?, List.head?_cons, Option.map_some, List.isEmpty_cons, Int.zero_add]
      rw [← hfour, ← htwo]
      rfl

theorem flagsAt?_zero (q : Bytes) : flagsAt? q 0 = flags? q := by
  cases q with
  | nil => rfl
  | cons x rest =>
      rw [flagsAt?, millisAt?_zero, flags?, width]
      cases hmillis : marksMillis x with
      | false => simp [millis?, millis, hmillis, Bytes.at?, Bytes.fromStart]
      | true => simp [millis?, millis, hmillis, Bytes.at?, Bytes.fromStart]

theorem value_two (x y : UInt8) : Bytes.value [x, y] = x.toNat * 256 + y.toNat := by
  simp [Bytes.value]

theorem value_four (x y z w : UInt8) :
    Bytes.value [x, y, z, w] =
      ((x.toNat * 256 + y.toNat) * 256 + z.toNat) * 256 + w.toNat := by
  simp [Bytes.value]

theorem decodes_seconds (x y : UInt8) (hx : x.toNat / 16 ≠ 15) :
    Decodes [x, y] false ((x.toNat * 256 + y.toNat) / 16 * 1000) (y.toNat % 16) := by
  have hmarks : marksMillis x = false := by
    rw [Bool.eq_false_iff, Ne, Compacted.marksMillis_iff]
    exact hx
  refine ⟨?_, ?_, ?_⟩
  · simp [millisAt?_zero, millis?, hmarks]
  · simp [offsetAt?_zero, offset?, offset, millis, millis?, hmarks, Bytes.value]
  · rw [flagsAt?_zero, (Single.seconds x y hx).flags?_eq]

theorem decodes_millis (x y z w : UInt8) (hx : x.toNat / 16 = 15) :
    Decodes [x, y, z, w] true (Bytes.value [x, y, z, w] / 64 % 4194304) (w.toNat % 16) := by
  have hmarks := (Compacted.marksMillis_iff x).mpr hx
  refine ⟨?_, ?_, ?_⟩
  · simp [millisAt?_zero, millis?, hmarks]
  · simp [offsetAt?_zero, offset?, offset, millis, millis?, hmarks]
  · rw [flagsAt?_zero, (Single.millis x y z w hx).flags?_eq]

/-- Two bytes whose first nibble is taken for the mark of milliseconds: the offset comes out too
small, and the flags are looked for behind the end. -/
theorem misreads (x y : UInt8) (hx : x.toNat / 16 = 15) :
    millisAt? [x, y] 0 = some true ∧ offsetAt? [x, y] 0 = some ((x.toNat * 256 + y.toNat) / 64) ∧
      flagsAt? [x, y] 0 = none := by
  have hmarks := (Compacted.marksMillis_iff x).mpr hx
  have hsmall : (x.toNat * 256 + y.toNat) / 64 < 4194304 := by
    have := x.toNat_lt
    have := y.toNat_lt
    omega
  refine ⟨?_, ?_, ?_⟩
  · simp [millisAt?_zero, millis?, hmarks]
  · simp [offsetAt?_zero, offset?, offset, millis, millis?, hmarks, Bytes.value,
      Nat.mod_eq_of_lt hsmall]
  · simp [flagsAt?_zero, flags?, Compacted.width_cons, hx]

theorem exists_two_bytes {n : Nat} (h : n < 65536) :
    ∃ x y : UInt8, Bytes.encode 2 n = [x, y] ∧ x.toNat * 256 + y.toNat = n := by
  refine ⟨_, _, rfl, ?_⟩
  rw [← value_two]
  exact (Bytes.value_encode 2 n).trans (Nat.mod_eq_of_lt h)

theorem exists_four_bytes {n : Nat} (h : n < 4294967296) :
    ∃ x y z w : UInt8, Bytes.encode 4 n = [x, y, z, w] ∧
      ((x.toNat * 256 + y.toNat) * 256 + z.toNat) * 256 + w.toNat = n := by
  refine ⟨_, _, _, _, rfl, ?_⟩
  rw [← value_four]
  exact (Bytes.value_encode 4 n).trans (Nat.mod_eq_of_lt h)

theorem build_millis {offset : Nat} (h : offset < 4194304) (flags : Int) :
    ∃ q, build true offset flags = .ok q ∧ isSingle? q = some true ∧
      Decodes q true offset (flags % 16).toNat := by
  have hlow : (flags % 16).toNat < 16 := by omega
  obtain ⟨x, y, z, w, hbytes, hvalue⟩ :=
    exists_four_bytes (n := 4026531840 + offset * 64 + (flags % 16).toNat) (by omega)
  have hy := y.toNat_lt
  have hz := z.toNat_lt
  have hw := w.toNat_lt
  have hx : x.toNat / 16 = 15 := by
    have := x.toNat_lt
    omega
  refine ⟨[x, y, z, w], ?_, ?_, ?_⟩
  · simp only [build, if_true]
    rw [if_pos (by omega), Int.toNat_natCast, hbytes]
  · simp [isSingle?, millis?, (Compacted.marksMillis_iff x).mpr hx]
  · have hdecodes := decodes_millis x y z w hx
    rw [value_four, hvalue] at hdecodes
    have hoffset : (4026531840 + offset * 64 + (flags % 16).toNat) / 64 % 4194304 = offset := by
      omega
    have hflags : w.toNat % 16 = (flags % 16).toNat := by omega
    rw [hoffset, hflags] at hdecodes
    exact hdecodes

theorem build_seconds {offset : Nat} (h : offset < 4096) (flags : Int) :
    ∃ q, build false offset flags = .ok q ∧ isSingle? q = some true ∧
      (offset < 3840 → Decodes q false (offset * 1000) (flags % 16).toNat) ∧
      (3840 ≤ offset → millisAt? q 0 = some true ∧ offsetAt? q 0 = some (offset / 4) ∧
        flagsAt? q 0 = none) := by
  have hlow : (flags % 16).toNat < 16 := by omega
  obtain ⟨x, y, hbytes, hvalue⟩ :=
    exists_two_bytes (n := offset * 16 + (flags % 16).toNat) (by omega)
  have hy := y.toNat_lt
  have hx := x.toNat_lt
  refine ⟨[x, y], ?_, rfl, ?_, ?_⟩
  · simp only [build, Bool.false_eq_true, if_false]
    rw [if_pos (by omega), Int.toNat_natCast, hbytes]
  · intro hbefore
    have hdecodes := decodes_seconds x y (by omega)
    rw [hvalue] at hdecodes
    have hoffset : (offset * 16 + (flags % 16).toNat) / 16 = offset := by omega
    have hflags : y.toNat % 16 = (flags % 16).toNat := by omega
    rw [hoffset, hflags] at hdecodes
    exact hdecodes
  · intro hafter
    have hmisreads := misreads x y (by omega)
    rw [hvalue] at hmisreads
    have hoffset : (offset * 16 + (flags % 16).toNat) / 64 = offset / 4 := by omega
    rw [hoffset] at hmisreads
    exact hmisreads

theorem build_eq_ok_iff (millis : Bool) (offset flags : Int) :
    (∃ q, build millis offset flags = .ok q) ↔
      0 ≤ offset ∧ offset < if millis then 4194304 else 4096 := by
  cases millis with
  | true =>
      simp only [build, if_true]
      split
      · next h => simp [h]
      · next h => simp [h]
  | false =>
      simp only [build, Bool.false_eq_true, if_false]
      split
      · next h => simp [h]
      · next h => simp [h]

theorem toNat_and_207 (w : UInt8) : (w &&& 207).toNat = w.toNat / 64 * 64 + w.toNat % 16 := by
  have hall : ∀ n < 256, n &&& 207 = n / 64 * 64 + n % 16 := by decide +kernel
  rw [UInt8.toNat_and]
  exact hall w.toNat w.toNat_lt

theorem rebuild_seconds (x y : UInt8) :
    build false ((x.toNat * 256 + y.toNat) / 16 : Nat) (y.toNat % 16 : Nat) = .ok [x, y] := by
  have := x.toNat_lt
  have := y.toNat_lt
  have hsame : (x.toNat * 256 + y.toNat) / 16 * 16 + ((y.toNat % 16 : Nat) % 16 : Int).toNat =
      Bytes.value [x, y] := by
    rw [value_two]
    omega
  simp only [build, Bool.false_eq_true, if_false]
  rw [if_pos (by omega), Int.toNat_natCast, hsame]
  exact congrArg Except.ok (Bytes.encode_value [x, y])

theorem rebuild_millis (x y z w : UInt8) (hx : x.toNat / 16 = 15) :
    build true (Bytes.value [x, y, z, w] / 64 % 4194304 : Nat) (w.toNat % 16 : Nat) =
      .ok [x, y, z, w &&& 207] := by
  have := x.toNat_lt
  have := y.toNat_lt
  have := z.toNat_lt
  have := w.toNat_lt
  have hsame : 4026531840 + Bytes.value [x, y, z, w] / 64 % 4194304 * 64 +
      ((w.toNat % 16 : Nat) % 16 : Int).toNat = Bytes.value [x, y, z, w &&& 207] := by
    rw [value_four, value_four, toNat_and_207]
    omega
  simp only [build, if_true]
  rw [if_pos (by omega), Int.toNat_natCast, hsame]
  exact congrArg Except.ok (Bytes.encode_value [x, y, z, w &&& 207])

/-- The qualifiers of one point by their length and the resolution that they tell. -/
inductive Proper : Bool → Bytes → Prop where
  | seconds (x y : UInt8) (hx : x.toNat / 16 ≠ 15) : Proper false [x, y]
  | millis (x y z w : UInt8) (hx : x.toNat / 16 = 15) : Proper true [x, y, z, w]

theorem proper_of_length {millis : Bool} {q : Bytes} (hlength : q.length = if millis then 4 else 2)
    (hmillis : millisAt? q 0 = some millis) : Proper millis q := by
  rw [millisAt?_zero] at hmillis
  cases millis with
  | false =>
      rcases q with _ | ⟨x, _ | ⟨y, _ | ⟨z, rest⟩⟩⟩
      case cons.cons.nil =>
        refine .seconds x y fun hx => ?_
        have hmarks := (Compacted.marksMillis_iff x).mpr hx
        simp [millis?, hmarks] at hmillis
      all_goals simp at hlength
  | true =>
      rcases q with _ | ⟨x, _ | ⟨y, _ | ⟨z, _ | ⟨w, _ | ⟨v, rest⟩⟩⟩⟩⟩
      case cons.cons.cons.cons.nil =>
        refine .millis x y z w ((Compacted.marksMillis_iff x).mp ?_)
        simpa [millis?] using hmillis
      all_goals simp at hlength

theorem Proper.build_decoded {millis : Bool} {q : Bytes} (h : Proper millis q) :
    ∃ offset flags, Decodes q millis offset flags ∧
      build millis (offset / unit millis : Nat) flags = .ok (clearUnused q) := by
  cases h with
  | seconds x y hx =>
      refine ⟨_, _, decodes_seconds x y hx, ?_⟩
      rw [unit, if_neg (by decide), Nat.mul_div_cancel _ (by decide)]
      exact rebuild_seconds x y
  | millis x y z w hx =>
      refine ⟨_, _, decodes_millis x y z w hx, ?_⟩
      rw [unit, if_pos rfl, Nat.div_one]
      exact rebuild_millis x y z w hx

theorem Proper.note_eq {millis : Bool} {q : Bytes} (h : Proper millis q) (base : Int)
    (value text : Bytes) :
    (⟨q, value⟩ : Cell).inMillis = .ok (⟨1 :: q, text⟩ : Note).inMillis ∧
      (⟨q, value⟩ : Cell).offset = .ok (⟨1 :: q, text⟩ : Note).offset ∧
      (⟨q, value⟩ : Cell).timestamp base = .ok ((⟨1 :: q, text⟩ : Note).timestamp base) := by
  have hmillis : (⟨q, value⟩ : Cell).inMillis = .ok (⟨1 :: q, text⟩ : Note).inMillis := by
    cases h with
    | seconds x y hx =>
        have hdecodes := (decodes_seconds x y hx).millis
        rw [millisAt?_zero] at hdecodes
        simp [Cell.inMillis, Cell.present, hdecodes, Note.inMillis]
    | millis x y z w hx =>
        have hdecodes := (decodes_millis x y z w hx).millis
        rw [millisAt?_zero] at hdecodes
        simp [Cell.inMillis, Cell.present, hdecodes, Note.inMillis]
  have hoffset : (⟨q, value⟩ : Cell).offset = .ok (⟨1 :: q, text⟩ : Note).offset := by
    cases h with
    | seconds x y hx =>
        have hdecodes := (decodes_seconds x y hx).offset
        rw [offsetAt?_zero] at hdecodes
        simp [Cell.offset, Cell.present, hdecodes, Note.offset, value_two]
    | millis x y z w hx =>
        have hdecodes := (decodes_millis x y z w hx).offset
        rw [offsetAt?_zero] at hdecodes
        simp [Cell.offset, Cell.present, hdecodes, Note.offset]
  refine ⟨hmillis, hoffset, ?_⟩
  simp only [Cell.timestamp, hmillis, hoffset, Note.timestamp]
  cases (⟨1 :: q, text⟩ : Note).inMillis with
  | false => rfl
  | true => rfl

/-- Qualifiers are built for the offsets of their range, and all that they were built for is read
off them, except off those of the last 256 seconds, which are taken for milliseconds. What is read
of the qualifier of a point is built into it again, with its unused bits zero, and a note with that
qualifier has the resolution, the offset and the timestamp of the point. -/
theorem build_roundTrip :
    (∀ (millis : Bool) (offset flags : Int), (∃ q, build millis offset flags = .ok q) ↔
      0 ≤ offset ∧ offset < if millis then 4194304 else 4096) ∧
    (∀ (millis : Bool) (offset flags : Int) (q : Bytes), build millis offset flags = .ok q →
      isSingle? q = some true ∧
        if millis = false ∧ 3840 ≤ offset then
          millisAt? q 0 = some true ∧ offsetAt? q 0 = some (offset.toNat / 4) ∧
            flagsAt? q 0 = none
        else Decodes q millis (offset.toNat * unit millis) (flags % 16).toNat) ∧
    (∀ (millis : Bool) (q : Bytes), q.length = (if millis then 4 else 2) →
      millisAt? q 0 = some millis →
      (∃ offset flags, Decodes q millis offset flags ∧
        build millis (offset / unit millis : Nat) flags = .ok (clearUnused q)) ∧
      ∀ (base : Int) (value text : Bytes),
        (⟨q, value⟩ : Cell).inMillis = .ok (⟨1 :: q, text⟩ : Note).inMillis ∧
        (⟨q, value⟩ : Cell).offset = .ok (⟨1 :: q, text⟩ : Note).offset ∧
        (⟨q, value⟩ : Cell).timestamp base = .ok ((⟨1 :: q, text⟩ : Note).timestamp base)) := by
  refine ⟨build_eq_ok_iff, ?_, ?_⟩
  · intro millis offset flags q hbuild
    obtain ⟨hnonneg, hlimit⟩ := (build_eq_ok_iff millis offset flags).mp ⟨q, hbuild⟩
    obtain ⟨n, rfl⟩ := Int.eq_ofNat_of_zero_le hnonneg
    rw [Int.toNat_natCast]
    cases millis with
    | true =>
        obtain ⟨q', hbuild', hsingle, hdecodes⟩ :=
          build_millis (show n < 4194304 by simp at hlimit; omega) flags
        obtain rfl := Except.ok.inj (hbuild.symm.trans hbuild')
        refine ⟨hsingle, ?_⟩
        rw [if_neg (by simp), unit, if_pos rfl, Nat.mul_one]
        exact hdecodes
    | false =>
        obtain ⟨q', hbuild', hsingle, hbefore, hafter⟩ :=
          build_seconds (show n < 4096 by simp at hlimit; omega) flags
        obtain rfl := Except.ok.inj (hbuild.symm.trans hbuild')
        refine ⟨hsingle, ?_⟩
        by_cases hlast : 3840 ≤ n
        · rw [if_pos ⟨rfl, by omega⟩]
          exact hafter hlast
        · rw [if_neg (by omega)]
          exact hbefore (by omega)
  · intro millis q hlength hmillis
    have hproper := proper_of_length hlength hmillis
    exact ⟨hproper.build_decoded, hproper.note_eq⟩

/-- Second 3599 with the flags of a four-byte float, second 3840, and a qualifier in milliseconds
whose unused bits are set. -/
theorem build_roundTrip_sample :
    isSingle? [224, 251] = some true ∧ Decodes [224, 251] false 3599000 11 ∧
      millisAt? [240, 0] 0 = some true ∧
      (∃ offset flags, Decodes [240, 0, 3, 240] true offset flags ∧
        build true (offset / unit true : Nat) flags = .ok [240, 0, 3, 192]) := by
  have hseconds := build_roundTrip.2.1 false 3599 11 [224, 251] rfl
  have hlast := build_roundTrip.2.1 false 3840 (-16) [240, 0] rfl
  have hmillis := build_roundTrip.2.2 true [240, 0, 3, 240] rfl rfl
  exact ⟨hseconds.1, hseconds.2, hlast.2.1, hmillis.1⟩

end Qualifier

end RawSeries
