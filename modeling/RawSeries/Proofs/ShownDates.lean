import RawSeries.Calendar.Stamp
import RawSeries.Proofs.CivilDays
import RawSeries.Proofs.NumberTexts

namespace RawSeries

namespace Numeral

/-- The last `width` digits of a number. -/
def lastDigits : Nat → Nat → List Nat
  | 0, _ => []
  | width + 1, n => lastDigits width (n / 10) ++ [n % 10]

theorem lastDigits_zero (width : Nat) : lastDigits width 0 = List.replicate width 0 := by
  induction width with
  | zero => rfl
  | succ width ih => rw [lastDigits, Nat.zero_div, ih, List.replicate_succ']

theorem length_lastDigits (width n : Nat) : (lastDigits width n).length = width := by
  induction width generalizing n with
  | zero => rfl
  | succ width ih => rw [lastDigits, List.length_append, ih, List.length_singleton]

theorem padded_eq {w n : Nat} (h : n < 10 ^ (w + 1)) :
    (padded (w + 1) n).toList = (lastDigits (w + 1) n).map digitChar := by
  induction w generalizing n with
  | zero =>
      have hn : n < 10 := h
      have hdigits : digits n = [n] := by rw [digits, if_pos hn]
      simp [padded, natural, hdigits, lastDigits, Nat.mod_eq_of_lt hn]
  | succ w ih =>
      rw [lastDigits, List.map_append]
      by_cases hn : n < 10
      · have hdigits : digits n = [n] := by rw [digits, if_pos hn]
        have hzero : digitChar 0 = '0' := rfl
        simp [padded, natural, hdigits, Nat.div_eq_of_lt hn, Nat.mod_eq_of_lt hn,
          lastDigits_zero, hzero]
      · rw [← ih (Nat.div_lt_of_lt_mul (by rwa [← Nat.pow_succ']))]
        have hdigits : digits n = digits (n / 10) ++ [n % 10] := by rw [digits, if_neg hn]
        simp [padded, natural, hdigits]

end Numeral

namespace Calendar

open Numeral (padded)

namespace Moment

variable {m : Moment}

theorem monthLength_le (year month : Nat) : monthLength year month ≤ 31 := by
  unfold monthLength
  repeat' split
  all_goals omega

theorem IsProper.bounds (hm : m.IsProper) :
    m.date.year ≤ 9999 ∧ 1 ≤ m.date.month ∧ m.date.month ≤ 12 ∧ 1 ≤ m.date.day ∧
      m.date.day ≤ 31 := by
  have hdate := hm.date
  have hlength := monthLength_le m.date.year m.date.month
  simp only [Date.isValid, Bool.and_eq_true, decide_eq_true_eq] at hdate
  omega

theorem toList_text (m : Moment) : m.text.toList =
    (dayNames.getD (weekday m.date.dayNumber) "").toList ++ ' ' ::
      ((monthNames.getD (m.date.month - 1) "").toList ++ ' ' ::
        ((padded 2 m.date.day).toList ++ ' ' :: ((padded 2 m.hour).toList ++ ':' ::
          ((padded 2 m.minute).toList ++ ':' :: ((padded 2 m.second).toList ++
            (" UTC ".toList ++ (Numeral.natural m.date.year).toList)))))) := by
  simp [text]

theorem length_dayName (n : Nat) : (dayNames.getD (weekday n) "").toList.length = 3 := by
  have hall : ∀ d < 7, (dayNames.getD d "").toList.length = 3 := by decide
  exact hall _ (Nat.mod_lt _ (by decide))

theorem length_monthName : ∀ k < 12, (monthNames.getD k "").toList.length = 3 := by
  decide

theorem monthName_inj : ∀ j < 12, ∀ k < 12,
    (monthNames.getD j "").toList = (monthNames.getD k "").toList → j = k := by
  decide

theorem length_padded {n : Nat} (h : n < 100) : (padded 2 n).toList.length = 2 := by
  rw [Numeral.padded_eq (w := 1) h, List.length_map, Numeral.length_lastDigits]

theorem padded_inj {j k : Nat} (h : (padded 2 j).toList = (padded 2 k).toList) : j = k := by
  rw [← Decimal.extend_padded 2 j, h, Decimal.extend_padded]

theorem eq_of_fields {n : Moment} (hyear : m.date.year = n.date.year)
    (hmonth : m.date.month = n.date.month) (hday : m.date.day = n.date.day)
    (hhour : m.hour = n.hour) (hminute : m.minute = n.minute) (hsecond : m.second = n.second) :
    m = n := by
  obtain ⟨⟨year, month, day⟩, hour, minute, second⟩ := m
  obtain ⟨⟨year', month', day'⟩, hour', minute', second'⟩ := n
  cases hyear
  cases hmonth
  cases hday
  cases hhour
  cases hminute
  cases hsecond
  rfl

/-- The text of a moment of the calendar says which one it is. -/
theorem text_inj {n : Moment} (hm : m.IsProper) (hn : n.IsProper) (h : m.text = n.text) :
    m = n := by
  have htext := congrArg String.toList h
  rw [toList_text, toList_text] at htext
  have hpadded {j k : Nat} (hj : j < 100) (hk : k < 100) :
      (padded 2 j).toList.length = (padded 2 k).toList.length :=
    (length_padded hj).trans (length_padded hk).symm
  obtain ⟨-, hmonth, hdecember, -, hday⟩ := hm.bounds
  obtain ⟨-, hmonth', hdecember', -, hday'⟩ := hn.bounds
  obtain ⟨-, htext⟩ := List.append_inj htext
    ((length_dayName _).trans (length_dayName _).symm)
  obtain ⟨hmonths, htext⟩ := List.append_inj (List.cons.inj htext).2
    ((length_monthName _ (by omega)).trans (length_monthName _ (by omega)).symm)
  obtain ⟨hdays, htext⟩ := List.append_inj (List.cons.inj htext).2
    (hpadded (by omega) (by omega))
  obtain ⟨hhours, htext⟩ := List.append_inj (List.cons.inj htext).2
    (hpadded (hm.hour.trans (by decide)) (hn.hour.trans (by decide)))
  obtain ⟨hminutes, htext⟩ := List.append_inj (List.cons.inj htext).2
    (hpadded (hm.minute.trans (by decide)) (hn.minute.trans (by decide)))
  obtain ⟨hseconds, htext⟩ := List.append_inj (List.cons.inj htext).2
    (hpadded (hm.second.trans (by decide)) (hn.second.trans (by decide)))
  have hyears : m.date.year = n.date.year := by
    rw [← Decimal.extend_natural m.date.year, List.append_cancel_left htext,
      Decimal.extend_natural]
  have hnames := monthName_inj _ (by omega) _ (by omega) hmonths
  exact eq_of_fields hyears (by omega) (padded_inj hdays) (padded_inj hhours)
    (padded_inj hminutes) (padded_inj hseconds)

end Moment

/-- The text of a second, which is that of no other second. -/
def IsTextOf (s : Int) (text : String) : Prop :=
  (∃ moment : Moment, moment.IsProper ∧ moment.text = text) ∧
    ∀ moment : Moment, moment.IsProper → moment.text = text → moment.toSeconds = s

theorem Moment.isTextOf {m : Moment} (h : m.IsProper) : IsTextOf m.toSeconds m.text := by
  refine ⟨⟨m, h, rfl⟩, ?_⟩
  intro other hother htext
  rw [text_inj hother h htext]

theorem dateText_of_seconds {t s : Int} (h : seconds? t = some s) (hfirst : firstSecond ≤ s)
    (hlast : s ≤ lastSecond) : ∃ text, dateText t = .ok text ∧ IsTextOf s text := by
  have hmoment : Calendar.moment t = .ok (.ofSeconds s) := by
    unfold Calendar.moment
    rw [h]
    unfold firstSecond lastSecond at *
    dsimp only
    rw [if_neg (by omega), if_neg (by omega), if_neg (by omega)]
  refine ⟨(Moment.ofSeconds s).text, ?_, ?_⟩
  · rw [dateText, hmoment]
    rfl
  · have htext := Moment.isTextOf (Moment.isProper_ofSeconds hfirst hlast)
    rwa [Moment.toSeconds_ofSeconds hfirst] at htext

end Calendar

end RawSeries
