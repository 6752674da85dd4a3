import RawSeries.Decimal.Notation
import RawSeries.Proofs.Numerals

namespace RawSeries.Decimal

def isDigit (c : Char) : Bool :=
  '0' ≤ c && c ≤ '9'

def Digits (cs : List Char) : Prop :=
  cs ≠ [] ∧ ∀ c ∈ cs, isDigit c = true

/-- A point and digits, or nothing. -/
inductive Fraction : List Char → Prop where
  | none : Fraction []
  | places {ds : List Char} (h : Digits ds) : Fraction ('.' :: ds)

/-- An exponent mark, a sign and digits, or nothing. -/
inductive Power : List Char → Prop where
  | none : Power []
  | ten {sign : Char} (hsign : sign = '+' ∨ sign = '-') {ds : List Char} (h : Digits ds) :
      Power ('e' :: sign :: ds)

/-- The text of a number without its sign: up to `limit` digits, the first of which is no zero
before others, and what may follow them. -/
inductive Unsigned (limit : Nat) : List Char → Prop where
  | parts {whole fraction power : List Char} (hwhole : Digits whole)
      (hfirst : whole = ['0'] ∨ whole.head? ≠ some '0') (hlimit : whole.length ≤ limit)
      (hfraction : Fraction fraction) (hpower : Power power) :
      Unsigned limit (whole ++ fraction ++ power)

theorem Unsigned.mono {m n : Nat} (h : m ≤ n) {cs : List Char} (hcs : Unsigned m cs) :
    Unsigned n cs := by
  obtain ⟨hwhole, hfirst, hlimit, hfraction, hpower⟩ := hcs
  exact .parts hwhole hfirst (Nat.le_trans hlimit h) hfraction hpower

theorem digits_natural (n : Nat) : Digits (Numeral.natural n).toList := by
  refine ⟨?_, Numeral.natural_all (by decide) n⟩
  simp [Numeral.natural, Numeral.digits_ne_nil]

theorem Digits.append {a b : List Char} (ha : ∀ c ∈ a, isDigit c = true) (hb : Digits b) :
    Digits (a ++ b) := by
  refine ⟨by simp [hb.1], fun c hc => ?_⟩
  rcases List.mem_append.mp hc with hc | hc
  · exact ha c hc
  · exact hb.2 c hc

theorem isDigit_of_replicate {n : Nat} : ∀ c ∈ List.replicate n '0', isDigit c = true := by
  intro c hc
  rw [List.eq_of_mem_replicate hc]
  decide

theorem digits_padded (width n : Nat) : Digits (Numeral.padded width n).toList := by
  rw [Numeral.padded, String.toList_append, String.toList_ofList]
  exact .append isDigit_of_replicate (digits_natural n)

theorem head?_natural {n : Nat} (h : n ≠ 0) : (Numeral.natural n).toList.head? ≠ some '0' := by
  have hfirst := Numeral.head?_digits h
  obtain ⟨d, ds, hds⟩ := List.exists_cons_of_ne_nil (Numeral.digits_ne_nil n)
  have hd : d < 10 := Numeral.digits_lt n d (by simp [hds])
  rw [hds] at hfirst
  simp only [Numeral.natural, hds, String.toList_ofList, List.map_cons, List.head?_cons, ne_eq,
    Option.some.injEq] at hfirst ⊢
  have hall : ∀ k : Fin 10, k.val ≠ 0 → Numeral.digitChar k ≠ '0' := by decide
  exact hall ⟨d, hd⟩ hfirst

theorem natural_first (n : Nat) :
    (Numeral.natural n).toList = ['0'] ∨ (Numeral.natural n).toList.head? ≠ some '0' := by
  by_cases hn : n = 0
  · refine .inl ?_
    rw [hn, Numeral.natural, Numeral.digits, String.toList_ofList]
    rfl
  · exact .inr (head?_natural hn)

theorem unsigned_natural {n limit : Nat} (h : (Numeral.digits n).length ≤ limit) :
    Unsigned limit (Numeral.natural n).toList := by
  have hlength : (Numeral.natural n).toList.length ≤ limit := by simpa [Numeral.natural] using h
  simpa using Unsigned.parts (digits_natural n) (natural_first n) hlength .none .none

theorem digits_zero : Digits ['0'] :=
  ⟨List.cons_ne_nil _ _, List.forall_mem_singleton.mpr rfl⟩

theorem Digits.take {ds : List Char} (h : Digits ds) {n : Nat} (hn : 0 < n) :
    Digits (ds.take n) := by
  refine ⟨?_, fun c hc => h.2 c (List.mem_of_mem_take hc)⟩
  rw [ne_eq, List.take_eq_nil_iff, not_or]
  exact ⟨Nat.ne_of_gt hn, h.1⟩

theorem Digits.drop {ds : List Char} (h : Digits ds) {n : Nat} (hn : n < ds.length) :
    Digits (ds.drop n) := by
  refine ⟨?_, fun c hc => h.2 c (List.mem_of_mem_drop hc)⟩
  rw [ne_eq, List.drop_eq_nil_iff]
  omega

section Layout

variable {ds : List Char} {limit n : Nat}

theorem unsigned_below (hds : Digits ds) (hlimit : 0 < limit) (zeros : Nat) :
    Unsigned limit ("0.".toList ++ (List.replicate zeros '0' ++ ds)) := by
  have hparts := Unsigned.parts digits_zero (.inl rfl) hlimit
    (.places (.append (isDigit_of_replicate (n := zeros)) hds)) .none
  simpa using hparts

theorem unsigned_whole (hds : Digits ds) (hfirst : ds = ['0'] ∨ ds.head? ≠ some '0')
    (hsize : ds.length ≤ n) (hzero : ds = ['0'] → n = 1) (hlimit : n ≤ limit) :
    Unsigned limit (ds ++ (List.replicate (n - ds.length) '0' ++ ".0".toList)) := by
  have hwhole : Digits (ds ++ List.replicate (n - ds.length) '0') := by
    refine ⟨by simp [hds.1], fun c hc => ?_⟩
    rcases List.mem_append.mp hc with hc | hc
    · exact hds.2 c hc
    · exact isDigit_of_replicate c hc
  have hfirst : ds ++ List.replicate (n - ds.length) '0' = ['0'] ∨
      (ds ++ List.replicate (n - ds.length) '0').head? ≠ some '0' := by
    rcases hfirst with rfl | hfirst
    · exact .inl (by rw [hzero rfl]; rfl)
    · obtain ⟨c, cs, rfl⟩ := List.exists_cons_of_ne_nil hds.1
      exact .inr hfirst
  have hlength : (ds ++ List.replicate (n - ds.length) '0').length ≤ limit := by
    rw [List.length_append, List.length_replicate]
    omega
  simpa using Unsigned.parts hwhole hfirst hlength (.places digits_zero) .none

theorem unsigned_mixed (hds : Digits ds) (hfirst : ds = ['0'] ∨ ds.head? ≠ some '0')
    (hn : 0 < n) (hsize : n < ds.length) (hlimit : n ≤ limit) :
    Unsigned limit (ds.take n ++ ('.' :: ds.drop n)) := by
  have hfirst : ds.take n = ['0'] ∨ (ds.take n).head? ≠ some '0' := by
    rcases hfirst with rfl | hfirst
    · exact absurd hsize (by rw [List.length_singleton]; omega)
    · rw [List.head?_take, if_neg (Nat.ne_of_gt hn)]
      exact .inr hfirst
  have hlength : (ds.take n).length ≤ limit := by
    rw [List.length_take]
    omega
  simpa using Unsigned.parts (hds.take hn) hfirst hlength (.places (hds.drop hsize)) .none

theorem unsigned_scaled (hds : Digits ds) (hlimit : 0 < limit) {sign : Char}
    (hsign : sign = '+' ∨ sign = '-') {power : List Char} (hpower : Digits power) :
    Unsigned limit (ds.take 1 ++ ((if ds.length = 1 then [] else '.' :: ds.drop 1) ++
      ('e' :: sign :: power))) := by
  have hfraction : Fraction (if ds.length = 1 then [] else '.' :: ds.drop 1) := by
    split
    · exact .none
    · rename_i hsize
      have hpos := List.length_pos_iff.mpr hds.1
      exact .places (hds.drop (by omega))
  obtain ⟨c, cs, rfl⟩ := List.exists_cons_of_ne_nil hds.1
  have hfirst : (c :: cs).take 1 = ['0'] ∨ ((c :: cs).take 1).head? ≠ some '0' := by
    by_cases hc : c = '0'
    · exact .inl (by rw [hc]; rfl)
    · exact .inr (by simpa using hc)
  have hparts := Unsigned.parts (hds.take Nat.one_pos) hfirst hlimit hfraction
    (.ten hsign hpower)
  rwa [List.append_assoc] at hparts

theorem unsigned_scaledText (hds : Digits ds) (hlimit : 0 < limit) (power : Int) :
    Unsigned limit (String.ofList (ds.take 1) ++
      (if ds.length = 1 then "" else "." ++ String.ofList (ds.drop 1)) ++ "e" ++
      (if power < 0 then "-" else "+") ++ Numeral.padded 2 power.natAbs).toList := by
  let sign := if power < 0 then '-' else '+'
  have hsign : sign = '+' ∨ sign = '-' := by
    simp only [sign]
    split
    · exact .inr rfl
    · exact .inl rfl
  have htext : (String.ofList (ds.take 1) ++
      (if ds.length = 1 then "" else "." ++ String.ofList (ds.drop 1)) ++ "e" ++
      (if power < 0 then "-" else "+") ++ Numeral.padded 2 power.natAbs).toList =
      ds.take 1 ++ ((if ds.length = 1 then [] else '.' :: ds.drop 1) ++
        ('e' :: sign :: (Numeral.padded 2 power.natAbs).toList)) := by
    simp only [sign]
    split <;> split <;> simp
  exact htext ▸ unsigned_scaled hds hlimit hsign (digits_padded 2 power.natAbs)

end Layout

theorem unsigned_text {x : Number} (h : x.coefficient ≠ 0 ∨ x.exponent ≤ 0) :
    Unsigned 16 (x.text plainLayout).toList := by
  have hchars : (Numeral.natural x.coefficient).toList =
      (Numeral.digits x.coefficient).map Numeral.digitChar := String.toList_ofList
  have hds := digits_natural x.coefficient
  have hfirst := natural_first x.coefficient
  have hzero : (Numeral.natural x.coefficient).toList = ['0'] → x.exponent ≤ 0 := by
    refine fun heq => h.resolve_left fun hne => head?_natural hne ?_
    rw [heq]
    rfl
  simp only [Number.text, zerosText, ← hchars]
  generalize (Numeral.natural x.coefficient).toList = ds at hds hfirst hzero
  have hpos : 0 < ds.length := List.length_pos_iff.mpr hds.1
  split
  · rename_i hplain
    have hgreatest : x.exponent + (ds.length : Int) - 1 ≤ 15 := hplain.2
    split
    · simpa using unsigned_below hds (show 0 < 16 by decide)
        (-(x.exponent + (ds.length : Int) - 1) - 1).toNat
    · rename_i hlead
      split
      · rename_i hsize
        have hwhole : ds = ['0'] → (x.exponent + (ds.length : Int) - 1).toNat + 1 = 1 := by
          intro heq
          have hexponent := hzero heq
          have hone : ds.length = 1 := by rw [heq]; rfl
          omega
        simpa using unsigned_whole hds hfirst hsize hwhole (show _ ≤ 16 by omega)
      · rename_i hsize
        have hmixed : (x.exponent + (ds.length : Int) - 1).toNat + 1 < ds.length := by omega
        simpa using unsigned_mixed hds hfirst (Nat.succ_pos _) hmixed (show _ ≤ 16 by omega)
  · exact unsigned_scaledText hds (show 0 < 16 by decide) _

theorem Number.trim_ne_zero {x : Number} (h : x.coefficient ≠ 0) : x.trim.coefficient ≠ 0 := by
  fun_induction Number.trim x with
  | case1 x hx ih => exact ih (show x.coefficient / 10 ≠ 0 by omega)
  | case2 x hx => exact h

theorem Magnitude.quotient_pos {x : Magnitude} (h : x.mantissa ≠ 0) :
    0 < x.quotient.1 ∧ 0 < x.quotient.2 := by
  have hpow (k : Nat) : 0 < Nat.pow 2 k := Nat.pow_pos (by decide)
  unfold Magnitude.quotient
  split
  · exact ⟨Nat.mul_pos (Nat.pos_of_ne_zero h) (hpow _), Nat.one_pos⟩
  · exact ⟨Nat.pos_of_ne_zero h, hpow _⟩

theorem Number.quotient_zero (e : Int) :
    (Number.quotient ⟨0, e⟩).1 = 0 ∧ 0 < (Number.quotient ⟨0, e⟩).2 := by
  unfold Number.quotient
  split
  · exact ⟨Nat.zero_mul _, Nat.one_pos⟩
  · exact ⟨rfl, Nat.pow_pos (by decide)⟩

theorem shrink_pos {base : Nat} (hbase : 0 < base) (num : Nat) {den : Nat} (h : 0 < den)
    (e : Int) : 0 < (shrink base num den e).2 := by
  unfold shrink
  split
  · exact Nat.mul_pos h (Nat.pow_pos hbase)
  · exact h

theorem shrink_zero (base den : Nat) (e : Int) : (shrink base 0 den e).1 = 0 := by
  unfold shrink
  split
  · rfl
  · exact Nat.zero_mul _

theorem Interval.not_holds_zero {f : Format} {x : Magnitude} (h : x.mantissa ≠ 0) {den : Nat}
    (hden : 0 < den) : (x.interval f).holds 0 den = false := by
  have hlow : 0 < (x.interval f).low := by
    simp only [Magnitude.interval]
    split <;> omega
  have hpos : 0 < (x.interval f).low * den := Nat.mul_pos hlow hden
  simp only [Interval.holds]
  split
  · simp only [Bool.and_eq_false_iff, decide_eq_false_iff_not]
    exact .inl (by omega)
  · simp only [Bool.and_eq_false_iff, decide_eq_false_iff_not]
    exact .inl (by omega)

theorem onGrid?_ne_zero {f : Format} {x : Magnitude} {e : Int} {number : Number}
    (hx : x.mantissa ≠ 0) (h : onGrid? f x e = some number) : number.coefficient ≠ 0 := by
  let reads (c : Nat) : Bool :=
    (x.interval f).holds
      (shrink 2 (Number.quotient ⟨c, e⟩).1 (Number.quotient ⟨c, e⟩).2 (x.exponent - 2)).1
      (shrink 2 (Number.quotient ⟨c, e⟩).1 (Number.quotient ⟨c, e⟩).2 (x.exponent - 2)).2
  have hzero : reads 0 = false := by
    obtain ⟨hnum, hden⟩ := Number.quotient_zero e
    simp only [reads, hnum, shrink_zero]
    exact Interval.not_holds_zero hx (shrink_pos (by decide) 0 hden _)
  have htried {first second : Nat}
      (h : (if reads first then some (⟨first, e⟩ : Number)
        else if reads second then some ⟨second, e⟩ else none) = some number) :
      number.coefficient ≠ 0 := by
    have hne {c : Nat} (hreads : reads c = true) : c ≠ 0 := by
      rintro rfl
      exact absurd (hzero.symm.trans hreads) nofun
    split at h
    · rename_i hreads
      cases h
      exact hne hreads
    · split at h
      · rename_i hreads
        cases h
        exact hne hreads
      · cases h
  exact htried h

theorem roundEven_ne_zero {num den : Nat} (hden : 0 < den) (h : den ≤ num) :
    roundEven num den ≠ 0 := by
  have hquotient : 0 < num / den := Nat.div_pos h hden
  simp only [roundEven]
  split
  · omega
  · split <;> omega

theorem shrink_nat (num den k : Nat) :
    shrink 10 num den (k : Int) = (num, den * Nat.pow 10 k) := rfl

theorem shrink_neg (num den k : Nat) :
    shrink 10 num den (-(k : Int)) = (num * Nat.pow 10 k, den) := by
  cases k with
  | zero => simp [shrink]
  | succ k => rfl

theorem shrink_leadingPlace {num den : Nat} (hnum : 0 < num) (hden : 0 < den) :
    (shrink 10 num den (leadingPlace num den)).2 ≤ (shrink 10 num den (leadingPlace num den)).1 := by
  simp only [leadingPlace]
  split
  · rename_i hle
    have hpos : 0 < num / den := Nat.div_pos hle hden
    have hlength : 0 < (Numeral.digits (num / den)).length :=
      List.length_pos_iff.mpr (Numeral.digits_ne_nil _)
    have hplace : ((Numeral.digits (num / den)).length : Int) - 1 =
        (((Numeral.digits (num / den)).length - 1 : Nat) : Int) := by omega
    rw [hplace, shrink_nat, Nat.mul_comm]
    exact (Nat.le_div_iff_mul_le hden).mp (Numeral.pow_length_le hpos)
  · rename_i hlt
    split
    · rename_i hshift
      rw [shrink_neg]
      exact hshift
    · let numSize := (Numeral.digits num).length
      let denSize := (Numeral.digits den).length
      have hplace : -((denSize - numSize : Nat) : Int) - 1 =
          -((denSize - numSize + 1 : Nat) : Int) := by omega
      have hlength : 0 < numSize := List.length_pos_iff.mpr (Numeral.digits_ne_nil num)
      rw [hplace, shrink_neg]
      calc den ≤ Nat.pow 10 denSize := Nat.le_of_lt (Numeral.lt_pow_length den)
        _ ≤ Nat.pow 10 (numSize - 1 + (denSize - numSize + 1)) :=
            Nat.pow_le_pow_right (by decide) (by omega)
        _ = Nat.pow 10 (numSize - 1) * Nat.pow 10 (denSize - numSize + 1) := Nat.pow_add ..
        _ ≤ num * Nat.pow 10 (denSize - numSize + 1) :=
            Nat.mul_le_mul_right _ (Numeral.pow_length_le hnum)

theorem shrink_of_le {num den : Nat} {e place : Int} (he : e ≤ place)
    (h : (shrink 10 num den place).2 ≤ (shrink 10 num den place).1) :
    (shrink 10 num den e).2 ≤ (shrink 10 num den e).1 := by
  have hpow {j k : Nat} (h : j ≤ k) : Nat.pow 10 j ≤ Nat.pow 10 k :=
    Nat.pow_le_pow_right (by decide) h
  have hone (k : Nat) : 1 ≤ Nat.pow 10 k := Nat.pow_pos (by decide)
  obtain ⟨k, rfl | rfl⟩ := Int.eq_nat_or_neg place
  · rw [shrink_nat] at h
    obtain ⟨j, rfl | rfl⟩ := Int.eq_nat_or_neg e
    · exact Nat.le_trans (Nat.mul_le_mul_left den (hpow (by omega))) h
    · rw [shrink_neg]
      calc den ≤ den * Nat.pow 10 k := Nat.le_mul_of_pos_right den (hone k)
        _ ≤ num := h
        _ ≤ num * Nat.pow 10 j := Nat.le_mul_of_pos_right num (hone j)
  · rw [shrink_neg] at h
    obtain ⟨j, rfl | rfl⟩ := Int.eq_nat_or_neg e
    · obtain ⟨rfl, rfl⟩ : j = 0 ∧ k = 0 := by omega
      simpa [shrink] using h
    · rw [shrink_neg]
      exact Nat.le_trans h (Nat.mul_le_mul_left num (hpow (by omega)))

theorem significant_ne_zero {count num den : Nat} (hcount : 0 < count) (hnum : 0 < num)
    (hden : 0 < den) : (significant count num den).coefficient ≠ 0 := by
  have hle := shrink_of_le (show leadingPlace num den - count + 1 ≤ leadingPlace num den by omega)
    (shrink_leadingPlace hnum hden)
  exact roundEven_ne_zero (shrink_pos (by decide) num hden _) hle

theorem shortestFrom_ne_zero {f : Format} {x : Magnitude} (hx : x.mantissa ≠ 0) (tries : Nat)
    {count : Nat} (hcount : 0 < count) : (shortestFrom f x tries count).coefficient ≠ 0 := by
  induction tries generalizing count with
  | zero => exact significant_ne_zero hcount (x.quotient_pos hx).1 (x.quotient_pos hx).2
  | succ tries ih =>
      rw [shortestFrom]
      split
      · rename_i number hnumber
        exact onGrid?_ne_zero hx hnumber
      · exact ih (Nat.succ_pos count)

theorem shortest_ne_zero (f : Format) (x : Magnitude) :
    (shortest f x).coefficient ≠ 0 ∨ (shortest f x).exponent ≤ 0 := by
  rw [shortest]
  split
  · exact .inr (Int.le_refl 0)
  · rename_i hx
    exact .inl (Number.trim_ne_zero (shortestFrom_ne_zero hx 17 Nat.one_pos))

theorem unsigned_shortest (f : Format) (x : Magnitude) :
    Unsigned 16 ((shortest f x).text plainLayout).toList :=
  unsigned_text (shortest_ne_zero f x)

end RawSeries.Decimal
