import RawSeries.Proofs.QualifierRoundTrip
import RawSeries.Proofs.ScanRange
import RawSeries.Proofs.ShownDates

/-!
The unit that a timestamp is taken to be in. It is guessed from the size of the timestamp, and
agrees with the resolution of the qualifier for all points of a row just when the base time of the
row is neither too early nor too late.
-/

namespace RawSeries

namespace Calendar

theorem isMillis_iff {t : Int} (hpos : 0 ≤ t) (hfits : t < 18446744073709551616) :
    isMillis t = true ↔ 4294967296 ≤ t := by
  simp only [isMillis, bne_iff_ne, ne_eq]
  omega

end Calendar

namespace Qualifier

theorem Proper.millis?_eq {inMillis : Bool} {q : Bytes} (h : Proper inMillis q) :
    millis? q = some inMillis := by
  rw [← millisAt?_zero]
  cases h with
  | seconds x y hx => exact (decodes_seconds x y hx).millis
  | millis x y z w hx => exact (decodes_millis x y z w hx).millis

theorem Proper.offset_seconds {q : Bytes} (h : Proper false q) :
    ∃ n ≤ 3839, offset q = n * 1000 := by
  cases h with
  | seconds x y hx =>
      have := x.toNat_lt
      have := y.toNat_lt
      have hdecodes := (decodes_seconds x y hx).offset
      rw [offsetAt?_zero] at hdecodes
      exact ⟨(x.toNat * 256 + y.toNat) / 16, by omega, Option.some.inj hdecodes⟩

end Qualifier

namespace Cell

/-- A point is shown with its offset in its own resolution, and with the text of the second that it
lies in: the text of a moment of that second, and of no moment of another one. -/
def ShownRight (base : Nat) (inMillis : Bool) (c : Cell) : Prop :=
  ∃ offset timestamp text,
    c.offset = .ok offset ∧ c.timestamp base = .ok timestamp ∧
    c.shownOffset base = .ok (if inMillis then offset else offset / 1000) ∧
    Calendar.dateText timestamp = .ok text ∧
    Calendar.IsTextOf (base + offset / 1000 : Nat) text

variable {inMillis : Bool} {q value : Bytes}

theorem offset_of_proper (h : Qualifier.Proper inMillis q) (value : Bytes) :
    (⟨q, value⟩ : Cell).offset = .ok (Qualifier.offset q) := by
  cases h <;> rfl

def timestampOf (base : Nat) (inMillis : Bool) (q : Bytes) : Nat :=
  if inMillis then base * 1000 + Qualifier.offset q else base + Qualifier.offset q / 1000

theorem timestamp_of_proper (h : Qualifier.Proper inMillis q) (value : Bytes) (base : Nat) :
    (⟨q, value⟩ : Cell).timestamp base = .ok (timestampOf base inMillis q : Nat) := by
  have hmillis : (⟨q, value⟩ : Cell).inMillis = .ok inMillis := by
    rw [Cell.inMillis, h.millis?_eq]
    rfl
  rw [timestamp, offset_of_proper h, hmillis]
  cases inMillis <;> rfl

theorem shownOffset_of_proper (h : Qualifier.Proper inMillis q) (value : Bytes) (base : Nat) :
    (⟨q, value⟩ : Cell).shownOffset base =
      .ok (if Calendar.isMillis (timestampOf base inMillis q) then Qualifier.offset q
        else Qualifier.offset q / 1000) := by
  rw [shownOffset, timestamp_of_proper h, offset_of_proper h]
  rfl

theorem seconds_of_guess {base : Nat} (hbase : base < 4294967296)
    (hguess : Calendar.isMillis (timestampOf base inMillis q) = inMillis) :
    Calendar.seconds? (timestampOf base inMillis q) =
      some ((base + Qualifier.offset q / 1000 : Nat) : Int) := by
  have hoffset := Qualifier.offset_lt q
  rw [Calendar.seconds?, hguess]
  cases inMillis with
  | false => rfl
  | true =>
      simp only [timestampOf, if_true]
      rw [if_pos (by omega), Option.some.injEq]
      omega

/-- A timestamp in seconds stays within 32 bits up to the last bound, and one in milliseconds is
beyond them from the first bound on. -/
theorem isMillis_of_bounds (h : Qualifier.Proper inMillis q) {base : Nat}
    (hfirst : 4294968 ≤ base) (hlast : base ≤ 4294963456) :
    Calendar.isMillis (timestampOf base inMillis q) = inMillis := by
  have hoffset := Qualifier.offset_lt q
  cases inMillis with
  | false =>
      obtain ⟨n, hn, hseconds⟩ := h.offset_seconds
      rw [Bool.eq_false_iff, Ne, Calendar.isMillis_iff (by omega)]
      all_goals
        simp only [timestampOf, Bool.false_eq_true, if_false]
        omega
  | true =>
      rw [Calendar.isMillis_iff (by omega)]
      all_goals
        simp only [timestampOf, if_true]
        omega

theorem shownRight_of_bounds (h : Qualifier.Proper inMillis q) (value : Bytes) {base : Nat}
    (hfirst : 4294968 ≤ base) (hlast : base ≤ 4294963456) :
    ShownRight base inMillis ⟨q, value⟩ := by
  have hoffset := Qualifier.offset_lt q
  have hguess := isMillis_of_bounds h hfirst hlast
  obtain ⟨text, htext, hpinned⟩ :=
    Calendar.dateText_of_seconds (seconds_of_guess (by omega) hguess)
      (by unfold Calendar.firstSecond; omega) (by unfold Calendar.lastSecond; omega)
  refine ⟨_, _, text, offset_of_proper h value, timestamp_of_proper h value base, ?_, htext,
    hpinned⟩
  rw [shownOffset_of_proper h, hguess]

theorem ShownRight.shown_eq {base : Nat} (h : Qualifier.Proper inMillis q)
    (hshown : ShownRight base inMillis ⟨q, value⟩) :
    (if Calendar.isMillis (timestampOf base inMillis q) then Qualifier.offset q
      else Qualifier.offset q / 1000) =
        if inMillis then Qualifier.offset q else Qualifier.offset q / 1000 := by
  obtain ⟨offset, -, -, hoffset, -, hshown, -⟩ := hshown
  rw [offset_of_proper h] at hoffset
  rw [shownOffset_of_proper h] at hshown
  cases hoffset
  exact Except.ok.inj hshown

/-- Before these bounds the first millisecond of a row is taken for a second, and after them the
last second for milliseconds; within them all points of a row are shown right. -/
theorem shownRight_iff {base : Nat} (hbase : base < 4294967296) :
    (∀ (inMillis : Bool) (q value : Bytes), Qualifier.Proper inMillis q →
      ShownRight base inMillis ⟨q, value⟩) ↔ 4294968 ≤ base ∧ base ≤ 4294963456 := by
  constructor
  · intro hall
    constructor
    · have hproper : Qualifier.Proper true [240, 0, 0, 64] := .millis 240 0 0 64 (by decide)
      have hoffset : Qualifier.offset [240, 0, 0, 64] = 1 := by decide
      have hshown := (hall true [240, 0, 0, 64] [] hproper).shown_eq hproper
      refine Nat.le_of_not_lt fun hearly => ?_
      have hguess : Calendar.isMillis (timestampOf base true [240, 0, 0, 64]) = false := by
        rw [Bool.eq_false_iff, Ne, Calendar.isMillis_iff (by omega)]
        all_goals
          simp only [timestampOf, if_true, hoffset]
          omega
      rw [hguess, hoffset] at hshown
      exact absurd hshown (by decide)
    · have hproper : Qualifier.Proper false [239, 240] := .seconds 239 240 (by decide)
      have hoffset : Qualifier.offset [239, 240] = 3839000 := by decide
      have hshown := (hall false [239, 240] [] hproper).shown_eq hproper
      refine Nat.le_of_not_lt fun hlate => ?_
      have hguess : Calendar.isMillis (timestampOf base false [239, 240]) = true := by
        rw [Calendar.isMillis_iff (by omega)]
        all_goals
          simp only [timestampOf, Bool.false_eq_true, if_false, hoffset]
          omega
      rw [hguess, hoffset] at hshown
      exact absurd hshown (by decide)
  · rintro ⟨hfirst, hlast⟩ inMillis q value h
    exact shownRight_of_bounds h value hfirst hlast

/-- The base time 3839 seconds before the last one of 32 bits, and the one after it. -/
theorem shownRight_iff_last :
    ShownRight 4294963456 false ⟨[239, 240], [42]⟩ ∧
      (Calendar.dateText 4294967295).toOption = some "Sun Feb 07 06:28:15 UTC 2106" ∧
      ¬∀ (inMillis : Bool) (q value : Bytes), Qualifier.Proper inMillis q →
        ShownRight 4294963457 inMillis ⟨q, value⟩ := by
  refine ⟨?_, by decide +kernel, ?_⟩
  · have hall := (shownRight_iff (show 4294963456 < 4294967296 by decide)).mpr (by decide)
    exact hall false [239, 240] [42] (.seconds 239 240 (by decide))
  · intro hall
    have hbounds := (shownRight_iff (show 4294963457 < 4294967296 by decide)).mp hall
    exact absurd hbounds.2 (by decide)

end Cell

end RawSeries
