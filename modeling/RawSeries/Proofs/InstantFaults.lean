import Mathlib.Data.List.TakeWhile
import RawSeries.Proofs.DoubleLimits
import RawSeries.Proofs.QueryGrammar

namespace RawSeries

namespace Duration

/-- The number that decimal digits of any script write. -/
def value (digits : List Char) : Nat :=
  digits.foldl (fun n c => 10 * n + (Text.digitValue? c).getD 0) 0

/-- Decimal digits, and a unit of so many milliseconds. -/
structure Writes (digits unit : List Char) (size : Nat) : Prop where
  written : digits ≠ []
  decimal : ∀ c ∈ digits, Text.isDecimal c = true
  unit : unitMillis? (dropLineEnd unit) = some size

theorem dropLineEnd_cases (cs : List Char) :
    dropLineEnd cs = cs ∨ cs = dropLineEnd cs ++ ['\n'] := by
  unfold dropLineEnd
  split
  · rename_i rest hrest
    refine .inr ?_
    rw [← List.reverse_cons, ← hrest, List.reverse_reverse]
  · exact .inl rfl

theorem unitMillis?_first {cs : List Char} {size : Nat} (h : unitMillis? cs = some size) :
    ∃ c rest, cs = c :: rest ∧ Text.isDecimal c = false := by
  unfold unitMillis? at h
  split at h
  all_goals first
    | exact ⟨_, _, rfl, by decide⟩
    | cases h

theorem span_writes {digits unit : List Char} {size : Nat} (h : Writes digits unit size) :
    (digits ++ unit).takeWhile Text.isDecimal = digits ∧
      (digits ++ unit).dropWhile Text.isDecimal = unit := by
  obtain ⟨c, rest, hunit, hc⟩ := unitMillis?_first h.unit
  have hfirst : ∃ rest, unit = c :: rest := by
    rcases dropLineEnd_cases unit with heq | heq
    · exact ⟨rest, heq.symm.trans hunit⟩
    · rw [hunit] at heq
      exact ⟨rest ++ ['\n'], heq⟩
  obtain ⟨rest, rfl⟩ := hfirst
  have hnone : ¬Text.isDecimal c = true := by simp [hc]
  rw [List.takeWhile_append_of_pos h.decimal, List.dropWhile_append_of_pos h.decimal,
    List.takeWhile_cons_of_neg hnone, List.dropWhile_cons_of_neg hnone, List.append_nil]
  exact ⟨rfl, rfl⟩

theorem millis_writes {digits unit : List Char} {size : Nat} (h : Writes digits unit size) :
    millis (String.ofList (digits ++ unit)) =
      ((number digits).mapError Fault.number).map (· * size) := by
  obtain ⟨htake, hdrop⟩ := span_writes h
  obtain ⟨d, ds, hds⟩ := List.exists_cons_of_ne_nil h.written
  simp only [millis, String.toList_ofList, htake, hdrop, h.unit]
  rw [hds]

theorem millis_cases (text : String) :
    (∃ flaw, millis text = .error (.query flaw)) ∨
      ∃ digits unit size, Writes digits unit size ∧ text.toList = digits ++ unit := by
  unfold millis
  dsimp only
  split
  · rename_i d ds size hdigits hunit
    refine .inr ⟨_, _, size, ⟨by rw [hdigits]; exact List.cons_ne_nil d ds, ?_, hunit⟩,
      List.takeWhile_append_dropWhile.symm⟩
    exact fun c hc => List.all_eq_true.mp List.all_takeWhile c hc
  · exact .inl ⟨_, rfl⟩

theorem number_decimal {digits : List Char} (h : ∀ c ∈ digits, Text.isDecimal c = true) :
    number digits = if maxDigits < digits.length then .error (.tooManyDigits digits.length)
      else .ok (value digits) := by
  have htake : digits.takeWhile Text.isDecimal = digits := List.takeWhile_eq_self_iff.mpr h
  simp only [number, htake, lt_irrefl, if_false]
  rfl

theorem number_eq_error_iff {cs : List Char} {flaw : NumberFlaw} :
    number cs = .error flaw ↔
      maxDigits < (cs.takeWhile Text.isDecimal).length ∧
          flaw = .tooManyDigits (cs.takeWhile Text.isDecimal).length ∨
        (cs.takeWhile Text.isDecimal).length ≤ maxDigits ∧
          (∃ c ∈ cs, Text.isDecimal c = false) ∧ flaw = .notDecimal (String.ofList cs) := by
  have hsign : (cs.takeWhile Text.isDecimal).length < cs.length ↔
      ∃ c ∈ cs, Text.isDecimal c = false := by
    rw [← not_iff_not, not_lt]
    constructor
    · rintro hle ⟨c, hc, hother⟩
      have hwhole : cs.takeWhile Text.isDecimal = cs :=
        (List.takeWhile_prefix _).eq_of_length_le hle
      rw [List.takeWhile_eq_self_iff.mp hwhole c hc] at hother
      cases hother
    · intro hnone
      have hwhole : cs.takeWhile Text.isDecimal = cs :=
        List.takeWhile_eq_self_iff.mpr fun c hc => by
          simpa using fun hother => hnone ⟨c, hc, hother⟩
      rw [hwhole]
  simp only [number, ← hsign]
  split
  · rename_i hlong
    simp [hlong, hlong.not_ge, eq_comm]
  · rename_i hfew
    split
    · rename_i hother
      simp [hfew, hother, not_lt.mp hfew, eq_comm]
    · rename_i hnone
      simp [hfew, hnone]

end Duration

namespace Instant

open Duration (Writes maxDigits)

/-- Why the text of an instant is refused with no word about queries. -/
inductive Refuses (now : Int) : List Char → NumberFlaw → Prop
  /-- A sign that writes a digit and is no decimal digit. -/
  | sign {cs : List Char} (hdigits : ∀ c ∈ cs, Text.isDigit c = true)
      (hsign : ∃ c ∈ cs, Text.isDecimal c = false)
      (hfew : (cs.takeWhile Text.isDecimal).length ≤ maxDigits) :
      Refuses now cs (.notDecimal (String.ofList cs))
  | long {cs : List Char} (hdigits : ∀ c ∈ cs, Text.isDigit c = true)
      (hlong : maxDigits < (cs.takeWhile Text.isDecimal).length) :
      Refuses now cs (.tooManyDigits (cs.takeWhile Text.isDecimal).length)
  | longAgo {digits unit : List Char} {size : Nat} (h : Writes digits unit size)
      (hlong : maxDigits < digits.length) :
      Refuses now (digits ++ unit ++ "-ago".toList) (.tooManyDigits digits.length)
  | farAgo {digits unit : List Char} {size : Nat} {flaw : NumberFlaw} (h : Writes digits unit size)
      (hfew : digits.length ≤ maxDigits)
      (hfar : Quantity.Exceeds now (Duration.value digits * size) flaw) :
      Refuses now (digits ++ unit ++ "-ago".toList) flaw

theorem ago?_eq_some_iff {text duration : String} :
    ago? text = some duration ↔ text.toList = duration.toList ++ "-ago".toList := by
  have hword : "-ago".toList = ['-', 'a', 'g', 'o'] := rfl
  unfold ago?
  dsimp only
  constructor
  · intro h
    split at h
    · rename_i hago
      cases h
      rw [String.toList_ofList, hword, ← hago, List.take_append_drop]
    · cases h
  · intro h
    have hlength : text.toList.length - 4 = duration.toList.length := by
      rw [h, List.length_append]
      rfl
    rw [hlength, h, List.drop_left, List.take_left, if_pos hword, String.ofList_toList]

theorem number_of_mapError {α : Type} {x : Except NumberFlaw α} {flaw : NumberFlaw}
    (h : x.mapError Fault.number = .error (.number flaw)) : x = .error flaw := by
  cases x with
  | error other =>
      cases h
      rfl
  | ok a => cases h

variable {now : Quantity} {given : String}

theorem read_ago {cs : List Char} (h : (Text.strip given).toList = cs ++ "-ago".toList) :
    read now given = (do
      let millis ← Duration.millis (String.ofList cs)
      (now.before millis).mapError Fault.number) := by
  have hnow : Text.strip given ≠ "now" := by
    intro heq
    have hlength := congrArg List.length h
    rw [heq, List.length_append] at hlength
    simp at hlength
  have hago : ago? (Text.strip given) = some (String.ofList cs) := by
    rw [ago?_eq_some_iff, String.toList_ofList]
    exact h
  simp only [read, if_neg hnow, hago]

theorem read_digits {cs : List Char} (h : (Text.strip given).toList = cs) (hne : cs ≠ [])
    (hdigits : ∀ c ∈ cs, Text.isDigit c = true) :
    read now given = (do
      let n ← (Duration.number cs).mapError Fault.number
      return ((if 10 < cs.length then n / 1000 else n : Nat) : Int)) := by
  have hletter {c : Char} (hc : c ∈ cs) : c ≠ 'o' := by
    rintro rfl
    exact absurd (hdigits 'o' hc) (by decide)
  have hnow : Text.strip given ≠ "now" := by
    intro heq
    rw [heq] at h
    exact hletter (h ▸ (by decide : 'o' ∈ "now".toList)) rfl
  have hago : ago? (Text.strip given) = none := by
    cases hago : ago? (Text.strip given) with
    | none => rfl
    | some duration =>
        rw [ago?_eq_some_iff, h] at hago
        exact absurd rfl (hletter (hago ▸ List.mem_append_right _ (by decide)))
  have hall : cs ≠ [] ∧ cs.all Text.isDigit = true := ⟨hne, List.all_eq_true.mpr hdigits⟩
  simp only [read, if_neg hnow, hago, h, if_pos hall]

theorem read_of_refuses {n : Int} {flaw : NumberFlaw}
    (h : Refuses n (Text.strip given).toList flaw) :
    read (.whole n) given = .error (.number flaw) := by
  generalize hcs : (Text.strip given).toList = cs at h
  cases h with
  | sign hdigits hsign hfew =>
      obtain ⟨c, hc, -⟩ := id hsign
      rw [read_digits hcs (List.ne_nil_of_mem hc) hdigits,
        Duration.number_eq_error_iff.mpr (.inr ⟨hfew, hsign, rfl⟩)]
      rfl
  | long hdigits hlong =>
      have hne : cs ≠ [] := by
        rintro rfl
        exact absurd hlong (by decide)
      rw [read_digits hcs hne hdigits, Duration.number_eq_error_iff.mpr (.inl ⟨hlong, rfl⟩)]
      rfl
  | longAgo hwrites hlong =>
      rw [read_ago hcs, Duration.millis_writes hwrites, Duration.number_decimal hwrites.decimal,
        if_pos hlong]
      rfl
  | farAgo hwrites hfew hfar =>
      rw [read_ago hcs, Duration.millis_writes hwrites, Duration.number_decimal hwrites.decimal,
        if_neg hfew.not_gt]
      have hbefore := Quantity.before_eq_error_iff.mpr hfar
      simp only [Except.mapError, Except.map, bind, Except.bind, hbefore]

theorem refuses_of_read {n : Int} {flaw : NumberFlaw}
    (h : read (.whole n) given = .error (.number flaw)) :
    Refuses n (Text.strip given).toList flaw := by
  unfold read at h
  dsimp only at h
  split at h
  · cases h
  split at h
  · rename_i duration hago
    rw [ago?_eq_some_iff] at hago
    rw [hago]
    rcases Duration.millis_cases duration with
      ⟨other, hquery⟩ | ⟨digits, unit, size, hwrites, hsplit⟩
    · rw [hquery] at h
      cases h
    · have hmillis := Duration.millis_writes hwrites
      rw [← hsplit, String.ofList_toList, Duration.number_decimal hwrites.decimal] at hmillis
      rw [hmillis] at h
      rw [hsplit]
      split at h
      · rename_i hlong
        cases h
        exact .longAgo hwrites hlong
      · rename_i hfew
        refine .farAgo hwrites (not_lt.mp hfew) (Quantity.before_eq_error_iff.mp ?_)
        have hbefore : (Quantity.before (.whole n) (Duration.value digits * size)).mapError
            Fault.number = .error (.number flaw) := h
        exact number_of_mapError hbefore
  split at h
  · rename_i hdigits
    have hall : ∀ c ∈ (Text.strip given).toList, Text.isDigit c = true :=
      List.all_eq_true.mp hdigits.2
    rcases bind_eq_error_iff.mp h with hnumber | ⟨m, -, hresult⟩
    · rcases Duration.number_eq_error_iff.mp (number_of_mapError hnumber) with
        ⟨hlong, rfl⟩ | ⟨hfew, hsign, rfl⟩
      · exact .long hall hlong
      · exact .sign hall hsign hfew
    · cases hresult
  · split at h <;> cases h

/-- An instant is read, or refused in the words of queries, or refused for one of its numbers, and
the last in these cases only. -/
theorem read_outcome (now : Int) (given : String) :
    ((∃ seconds, read (.whole now) given = .ok seconds) ∨
      (∃ flaw, read (.whole now) given = .error (.query flaw)) ∨
      ∃ flaw, read (.whole now) given = .error (.number flaw)) ∧
    ∀ flaw, read (.whole now) given = .error (.number flaw) ↔
      Refuses now (Text.strip given).toList flaw := by
  refine ⟨?_, fun flaw => ⟨refuses_of_read, read_of_refuses⟩⟩
  cases h : read (.whole now) given with
  | ok seconds => exact .inl ⟨seconds, rfl⟩
  | error f =>
      cases ofWords_of_read h with
      | query flaw => exact .inr (.inl ⟨flaw, rfl⟩)
      | number flaw => exact .inr (.inr ⟨flaw, rfl⟩)

/-- A superscript two is a digit sign, and no decimal digit. -/
theorem read_superscript :
    ¬((∃ seconds, read (.whole 1700000000) "²" = .ok seconds) ∨
      ∃ flaw, read (.whole 1700000000) "²" = .error (.query flaw)) := by
  have hstrip : (Text.strip "²").toList = ['²'] := by decide
  have hread : read (.whole 1700000000) "²" =
      .error (.number (.notDecimal (String.ofList ['²']))) :=
    read_of_refuses (hstrip ▸ .sign (List.forall_mem_singleton.mpr (by decide))
      ⟨'²', List.mem_singleton_self _, by decide⟩ (by decide))
  rw [hread]
  rintro (⟨seconds, ⟨⟩⟩ | ⟨flaw, ⟨⟩⟩)

end Instant

end RawSeries
