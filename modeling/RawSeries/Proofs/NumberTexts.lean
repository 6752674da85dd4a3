import RawSeries.Proofs.JsonNumbers
import RawSeries.Proofs.Quotients

namespace RawSeries

/-- A minus sign at the start of a text, and the text without it. -/
def splitSign : List Char → Bool × List Char
  | '-' :: rest => (true, rest)
  | cs => (false, cs)

/-- The whole number that a text writes: digits, after a minus sign for a negative one. -/
def Numeral.ofChars? (cs : List Char) : Option Int :=
  let (negative, digits) := splitSign cs
  let (value, count, rest) := Decimal.spanDigits digits 0 0
  if count ≠ 0 ∧ rest = [] then some (if negative then -(value : Int) else value) else none

namespace Decimal

/-- The decimal that a whole text writes: digits, perhaps a point and digits, perhaps a power of
ten. -/
def Number.ofChars? (cs : List Char) : Option Number :=
  let (whole, count, rest) := spanDigits cs 0 0
  let (coefficient, places, rest) := (Json.fraction? whole rest).getD (whole, 0, rest)
  let (power, rest) := (Json.exponent? rest).getD (0, rest)
  if count ≠ 0 ∧ rest = [] then some ⟨coefficient, power - places⟩ else none

theorem extend_append (value : Nat) (a b : List Char) :
    extend value (a ++ b) = extend (extend value a) b :=
  List.foldl_append

theorem extend_zeros (value n : Nat) :
    extend value (List.replicate n '0') = value * 10 ^ n := by
  induction n generalizing value with
  | zero => simp [extend]
  | succ n ih =>
      have hzero : extend value ['0'] = 10 * value := rfl
      rw [List.replicate_succ, ← List.singleton_append, extend_append, hzero, ih, Nat.pow_succ]
      ring

theorem extend_natural (n : Nat) : extend 0 (Numeral.natural n).toList = n := by
  rw [Numeral.natural, String.toList_ofList]
  fun_induction Numeral.digits n with
  | case1 n hn =>
      have hall : ∀ d < 10, extend 0 [Numeral.digitChar d] = d := by decide
      exact hall n hn
  | case2 n hn ih =>
      have hall : ∀ d < 10, (Numeral.digitChar d).toNat - 48 = d := by decide
      have hlast := hall (n % 10) (Nat.mod_lt n (by decide))
      rw [List.map_append, extend_append, ih, List.map_singleton]
      simp only [extend, List.foldl_cons, List.foldl_nil, hlast]
      omega

theorem extend_padded (width n : Nat) : extend 0 (Numeral.padded width n).toList = n := by
  rw [Numeral.padded, String.toList_append, String.toList_ofList, extend_append, extend_zeros,
    Nat.zero_mul, extend_natural]

theorem stops_nil : Stops [] :=
  nofun

theorem fraction?_digits {ds rest : List Char} (hds : Digits ds) (hrest : Stops rest)
    (value : Nat) :
    Json.fraction? value ('.' :: (ds ++ rest)) = some (extend value ds, ds.length, rest) := by
  have hlength : ds.length ≠ 0 := fun h => hds.1 (List.length_eq_zero_iff.mp h)
  simp [Json.fraction?, spanDigits_append hds.2 hrest, hlength]

theorem exponent?_padded (power : Int) :
    Json.exponent? ('e' :: (if power < 0 then '-' else '+') ::
      (Numeral.padded 2 power.natAbs).toList) = some (power, []) := by
  have hds := digits_padded 2 power.natAbs
  have hlength : (Numeral.padded 2 power.natAbs).toList.length ≠ 0 :=
    fun h => hds.1 (List.length_eq_zero_iff.mp h)
  have hspan := spanDigits_append hds.2 stops_nil 0 0
  rw [List.append_nil, extend_padded, Nat.zero_add] at hspan
  by_cases hpower : power < 0
  · have habs : -(power.natAbs : Int) = power := by omega
    rw [if_pos hpower]
    simp only [Json.exponent?, hspan, true_or, if_true, if_neg hlength, habs]
  · have habs : (power.natAbs : Int) = power := by omega
    rw [if_neg hpower]
    simp only [Json.exponent?, hspan, true_or, if_true, if_neg hlength, habs]
    rfl

theorem ofChars?_point {whole places : List Char} (hwhole : Digits whole)
    (hplaces : Digits places) : Number.ofChars? (whole ++ '.' :: places) =
      some ⟨extend 0 (whole ++ places), -(places.length : Int)⟩ := by
  have hcount : whole.length ≠ 0 := fun h => hwhole.1 (List.length_eq_zero_iff.mp h)
  have hspan := spanDigits_append hwhole.2 (stops_cons (show isDigit '.' = false by decide) places)
    0 0
  have hfraction := fraction?_digits hplaces stops_nil (extend 0 whole)
  rw [List.append_nil] at hfraction
  simp [Number.ofChars?, hspan, hfraction, Json.exponent?, hcount, extend_append]

theorem ofChars?_power {whole places : List Char} (hwhole : Digits whole)
    (hplaces : ∀ c ∈ places, isDigit c = true) (power : Int) :
    Number.ofChars? (whole ++ ((if places = [] then [] else '.' :: places) ++
      'e' :: (if power < 0 then '-' else '+') :: (Numeral.padded 2 power.natAbs).toList)) =
      some ⟨extend 0 (whole ++ places), power - places.length⟩ := by
  have hcount : whole.length ≠ 0 := fun h => hwhole.1 (List.length_eq_zero_iff.mp h)
  have hmark (rest : List Char) : Stops ('e' :: rest) := stops_cons (by decide) rest
  have hexponent := exponent?_padded power
  split
  · rename_i hnone
    have hspan := spanDigits_append hwhole.2 (hmark ((if power < 0 then '-' else '+') ::
      (Numeral.padded 2 power.natAbs).toList)) 0 0
    have hfraction (value : Nat) (rest : List Char) :
        Json.fraction? value ('e' :: rest) = none :=
      Json.fraction?_eq_none (fun _ h => absurd (List.cons.inj h).1 (by decide)) value
    simp [Number.ofChars?, hspan, hfraction, hexponent, hcount, hnone]
  · rename_i hsome
    have hspan := spanDigits_append hwhole.2 (stops_cons (show isDigit '.' = false by decide)
      (places ++ 'e' :: (if power < 0 then '-' else '+') ::
        (Numeral.padded 2 power.natAbs).toList)) 0 0
    have hfraction := fraction?_digits ⟨hsome, hplaces⟩ (hmark ((if power < 0 then '-' else '+') ::
      (Numeral.padded 2 power.natAbs).toList)) (extend 0 whole)
    simp [Number.ofChars?, hspan, hfraction, hexponent, hcount, extend_append]

theorem ofChars?_text (x : Number) :
    ∃ y, Number.ofChars? (x.text plainLayout).toList = some y ∧ y.toRat = x.toRat := by
  have hchars : (Numeral.natural x.coefficient).toList =
      (Numeral.digits x.coefficient).map Numeral.digitChar := String.toList_ofList
  have hds := digits_natural x.coefficient
  have hvalue := extend_natural x.coefficient
  simp only [Number.text, zerosText, plainLayout, ← hchars]
  generalize (Numeral.natural x.coefficient).toList = ds at hds hvalue
  have hpos : 0 < ds.length := List.length_pos_iff.mpr hds.1
  obtain ⟨lead, hlead⟩ : ∃ lead, lead = x.exponent + (ds.length : Int) - 1 := ⟨_, rfl⟩
  rw [← hlead]
  split
  · split
    · -- zeros after the point
      have hread := ofChars?_point digits_zero
        (.append (isDigit_of_replicate (n := (-lead - 1).toNat)) hds)
      have hplaces : -((List.replicate (-lead - 1).toNat '0' ++ ds).length : Int) =
          x.exponent := by
        rw [List.length_append, List.length_replicate]
        omega
      have hzero : extend 0 ['0'] = 0 := rfl
      rw [hplaces, extend_append, extend_append, extend_zeros, hzero, Nat.zero_mul, hvalue]
        at hread
      exact ⟨x, by simpa using hread, rfl⟩
    · split
      · -- zeros before the point
        have hwhole : Digits (ds ++ List.replicate (lead.toNat + 1 - ds.length) '0') := by
          refine ⟨by simp [hds.1], fun c hc => ?_⟩
          rcases List.mem_append.mp hc with hc | hc
          · exact hds.2 c hc
          · exact isDigit_of_replicate c hc
        have hread := ofChars?_point hwhole digits_zero
        rw [extend_append, extend_append, hvalue, extend_zeros] at hread
        refine ⟨_, by simpa using hread, ?_⟩
        have hexponent : x.exponent = ((lead.toNat + 1 - ds.length : Nat) : Int) := by omega
        have hlast : extend (x.coefficient * 10 ^ (lead.toNat + 1 - ds.length)) ['0'] =
            x.coefficient * 10 ^ (lead.toNat + 1 - ds.length) * 10 ^ 1 := extend_zeros _ 1
        rw [Number.toRat, Number.toRat, hlast, hexponent]
        push_cast
        rw [zpow_natCast, zpow_neg_one]
        ring
      · -- digits on both sides
        have hread := ofChars?_point (hds.take (Nat.succ_pos lead.toNat))
          (hds.drop (show lead.toNat + 1 < ds.length by omega))
        have hplaces : -((ds.drop (lead.toNat + 1)).length : Int) = x.exponent := by
          rw [List.length_drop]
          omega
        rw [List.take_append_drop, hvalue, hplaces] at hread
        exact ⟨x, by simpa using hread, rfl⟩
  · have hrest : ∀ c ∈ ds.drop 1, isDigit c = true := fun c hc => hds.2 c (List.mem_of_mem_drop hc)
    have hread := ofChars?_power (hds.take Nat.one_pos) hrest lead
    have hplaces : lead - ((ds.drop 1).length : Int) = x.exponent := by
      rw [List.length_drop]
      omega
    have hone : ds.drop 1 = [] ↔ ds.length = 1 := by
      rw [List.drop_eq_nil_iff]
      omega
    rw [List.take_append_drop, hvalue, hplaces] at hread
    refine ⟨x, ?_, rfl⟩
    rw [← hread]
    congr 1
    simp only [hone]
    split <;> split <;> simp

end Decimal

theorem splitSign_digits {cs : List Char}
    (h : ∀ c rest, cs = c :: rest → Decimal.isDigit c = true) : splitSign cs = (false, cs) := by
  unfold splitSign
  split
  · rename_i rest
    exact absurd (h '-' rest rfl) (by decide)
  · rfl

theorem Numeral.spanDigits_natural (n : Nat) :
    Decimal.spanDigits (natural n).toList 0 0 = (n, (natural n).toList.length, []) := by
  have hspan := Decimal.spanDigits_append (Decimal.digits_natural n).2 Decimal.stops_nil 0 0
  rwa [List.append_nil, Decimal.extend_natural, Nat.zero_add] at hspan

theorem Numeral.ofChars?_integer (n : Int) : ofChars? (integer n).toList = some n := by
  have hlength (n : Nat) : (natural n).toList.length ≠ 0 :=
    fun h => (Decimal.digits_natural n).1 (List.length_eq_zero_iff.mp h)
  cases n with
  | ofNat n =>
      have hsign : splitSign (natural n).toList = (false, (natural n).toList) :=
        splitSign_digits fun c rest h =>
          (Decimal.digits_natural n).2 c (h ▸ List.mem_cons_self)
      simp [integer, ofChars?, hsign, spanDigits_natural, hlength]
  | negSucc n =>
      have hsign : splitSign ("-" ++ natural (n + 1)).toList =
          (true, (natural (n + 1)).toList) := by
        simp [splitSign]
      simp only [integer, ofChars?, hsign, spanDigits_natural]
      simp [hlength]
      omega

namespace Decimal

theorem splitSign_unsigned {limit : Nat} {cs : List Char} (h : Unsigned limit cs)
    (negative : Bool) :
    splitSign ((if negative then "-" else "").toList ++ cs) = (negative, cs) ∧
      cs ≠ "inf".toList := by
  have hfirst : ∀ c rest, cs = c :: rest → isDigit c = true := by
    cases h with
    | @parts whole fraction power hwhole hfirst hlimit hfraction hpower =>
        intro c rest heq
        obtain ⟨d, ds, rfl⟩ := List.exists_cons_of_ne_nil hwhole.1
        obtain ⟨rfl, -⟩ := List.cons.inj heq
        exact hwhole.2 d List.mem_cons_self
  constructor
  · cases negative with
    | true => rfl
    | false => exact splitSign_digits hfirst
  · rintro rfl
    exact absurd (hfirst 'i' ['n', 'f'] rfl) (by decide)

end Decimal

end RawSeries
