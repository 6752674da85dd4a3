import RawSeries.Proofs.ReadingSets

/-!
Four-byte numbers are printed with the fewest digits. Only the nearest decimal of each count of
digits is tried, which is enough unless a decimal above a power of two is read as it while a nearer
one below is not. There are three such powers.
-/

namespace RawSeries.Decimal

theorem Rounds.abs_sub_le {q : ℚ} {m : Nat} (h : Rounds q m) (n : Nat) :
    |(m : ℚ) - q| ≤ |(n : ℚ) - q| := by
  have hbelow := h.below
  have habove := h.above
  rcases lt_trichotomy m n with hless | rfl | hmore
  · have hnext : (m : ℚ) + 1 ≤ n := by exact_mod_cast hless
    rw [abs_of_nonneg (show 0 ≤ (n : ℚ) - q by linarith)]
    exact abs_le.mpr ⟨by linarith, by linarith⟩
  · exact le_rfl
  · have hnext : (n : ℚ) + 1 ≤ m := by exact_mod_cast hmore
    rw [abs_sub_comm (n : ℚ), abs_of_nonneg (show 0 ≤ q - n by linarith)]
    exact abs_le.mpr ⟨by linarith, by linarith⟩

section Nearest

variable {num den : Nat}

theorem gridNearest_abs_le (num : Nat) (hden : 0 < den) (e : Int) (c : Nat) :
    |(gridNearest num den e).toRat - num / den| ≤ |(c : ℚ) * 10 ^ e - num / den| := by
  have hvalue : (gridNearest num den e).toRat =
      (gridNearest num den e).coefficient * 10 ^ e := rfl
  rw [hvalue, grid_sub, grid_sub, abs_mul, abs_mul]
  exact mul_le_mul_of_nonneg_right ((rounds_gridNearest num hden e).abs_sub_le c) (abs_nonneg _)

theorem gridNearest_eq (hden : 0 < den) {e : Int} {c : Nat}
    (h : 2 * |(c : ℚ) * 10 ^ e - num / den| < 10 ^ e) : gridNearest num den e = ⟨c, e⟩ := by
  have hpos : (0 : ℚ) < 10 ^ e := by positivity
  rw [grid_sub, abs_mul, abs_of_pos hpos, ← mul_assoc, mul_lt_iff_lt_one_left hpos] at h
  obtain ⟨hlow, hhigh⟩ := abs_lt.mp (show |(c : ℚ) - num / den / 10 ^ e| < 1 / 2 by linarith)
  have hsame := (rounds_gridNearest num hden e).unique
    (Rounds.of_lt (m := c) (by linarith) (by linarith))
  rw [← hsame]
  rfl

end Nearest

def Magnitude.readsBack (x : Magnitude) (d : Number) : Bool :=
  (double.round? d.quotient.1 d.quotient.2).bind (·.round? single) == some x

/-- On a grid, the nearest decimal is read as the number, or neither of the neighbours is. -/
def Magnitude.settled (x : Magnitude) (e : Int) : Bool :=
  x.readsBack (gridNearest x.quotient.1 x.quotient.2 e) ||
    !(x.readsBack ⟨gridBelow x.quotient.1 x.quotient.2 e, e⟩ ||
      x.readsBack ⟨gridBelow x.quotient.1 x.quotient.2 e + 1, e⟩)

section Grids

variable {x : Magnitude} {e : Int} {c : Nat}

theorem Magnitude.readsBack_iff (hx : x.IsOf single) (d : Number) :
    x.readsBack d = true ↔ x.Reads d.toRat := by
  rw [readsBack, beq_iff_eq, Option.bind_eq_some_iff]
  constructor
  · rintro ⟨wide, hwide, hnarrow⟩
    rw [double.round?_eq_some_iff double_isBounded _ d.quotient_den_pos, d.quotient_ratio] at hwide
    exact ⟨wide, hwide.1, hwide.2, ((wide.round?_eq_some_iff single_isBounded x).mp hnarrow).2⟩
  · rintro ⟨wide, hwide, hcovers, hnarrow⟩
    refine ⟨wide, ?_, (wide.round?_eq_some_iff single_isBounded x).mpr ⟨hx, hnarrow⟩⟩
    rw [double.round?_eq_some_iff double_isBounded _ d.quotient_den_pos, d.quotient_ratio]
    exact ⟨hwide, hcovers⟩

/-- No decimal of the grid is read as the number, unless the nearest one is. -/
def Magnitude.Decides (x : Magnitude) (e : Int) : Prop :=
  ∀ c : Nat, x.Reads (c * 10 ^ e) → x.Reads (gridNearest x.quotient.1 x.quotient.2 e).toRat

theorem Magnitude.decides_of_settled (hx : x.IsOf single) (hne : x.mantissa ≠ 0)
    (h : x.settled e = true) : x.Decides e := by
  intro c hc
  have hden := (x.quotient_pos hne).2
  have hvalue : (x.quotient.1 : ℚ) / x.quotient.2 ∈ {q | x.Reads q} := by
    rw [x.quotient_ratio]
    exact reads_toRat hx
  have hneighbour := neighbour_mem (reads_ordConnected hne) hden hvalue hc
  simp only [settled, Bool.or_eq_true, Bool.not_eq_true', Bool.or_eq_false_iff] at h
  rcases h with h | ⟨hbelow, habove⟩
  · exact (readsBack_iff hx _).mp h
  · rcases hneighbour with h | h
    · cases hbelow.symm.trans ((readsBack_iff hx ⟨_, e⟩).mpr h)
    · cases habove.symm.trans ((readsBack_iff hx ⟨_, e⟩).mpr h)

theorem Magnitude.decides_of_mirror (hx : x.IsOf single) (hne : x.mantissa ≠ 0)
    (hpower : ∀ j, x.mantissa ≠ 2 ^ j) (e : Int) : x.Decides e := by
  intro c hc
  have hmirror := Reads.mirror hx hne hpower hc
  have hnearest := gridNearest_abs_le x.quotient.1 (x.quotient_pos hne).2 e c
  rw [x.quotient_ratio] at hnearest
  -- the nearest decimal lies between the given one and its mirror image
  rcases le_total ((c : ℚ) * 10 ^ e) x.toRat with hle | hle
  · rw [abs_sub_comm ((c : ℚ) * 10 ^ e), abs_of_nonneg (sub_nonneg.mpr hle), abs_le] at hnearest
    exact (reads_ordConnected hne).out hc hmirror ⟨by linarith, by linarith⟩
  · rw [abs_of_nonneg (sub_nonneg.mpr hle), abs_le] at hnearest
    exact (reads_ordConnected hne).out hmirror hc ⟨by linarith, by linarith⟩

/-- On a coarse grid, the decimals that are not nearest are too far away. -/
theorem Magnitude.decides_of_coarse (hx : x.IsOf single) (hne : x.mantissa ≠ 0)
    (h : (2 : ℚ) ^ (x.exponent + 1) ≤ 10 ^ e) : x.Decides e := by
  intro c hc
  have hnear := Reads.near hx hne hc
  have hdouble : (2 : ℚ) ^ (x.exponent + 1) = 2 * 2 ^ x.exponent := by
    rw [zpow_add_one₀ two_ne_zero, mul_comm]
  rw [gridNearest_eq (c := c) (x.quotient_pos hne).2 (by rw [x.quotient_ratio]; linarith)]
  exact hc

theorem Magnitude.decides_of_fine (hx : x.IsOf single) (hne : x.mantissa ≠ 0)
    (h : (10 : ℚ) ^ e < 2 ^ (x.exponent - 2)) : x.Decides e := by
  have hnear := gridNearest_near x.quotient.1 (x.quotient_pos hne).2 e
  have hquarter : (2 : ℚ) ^ x.exponent = 2 ^ (x.exponent - 2) * 4 := by
    rw [show x.exponent = x.exponent - 2 + 2 by omega, two_zpow_add]
    norm_num
  rw [x.quotient_ratio] at hnear
  exact fun _ _ => reads_of_near hx hne (by linarith)

end Grids

/-- The exponent of the grid that is neither coarse nor fine for a last place, as the ratio of the
logarithms says. -/
def middleGrid (place : Int) : Int :=
  -((2 - place) * 30103 / 100000)

def powerLt (base : Nat) (d : Int) (other : Nat) (e : Int) : Bool :=
  (scaled base 1 d).1 * (scaled other 1 e).2 < (scaled other 1 e).1 * (scaled base 1 d).2

theorem powerLt_iff {base other : Nat} (hbase : 0 < base) (hother : 0 < other) (d e : Int) :
    powerLt base d other e = true ↔ (base : ℚ) ^ d < (other : ℚ) ^ e := by
  have hden {n : Nat} (hn : 0 < n) (e : Int) : (0 : ℚ) < ((scaled n 1 e).2 : ℚ) := by
    exact_mod_cast scaled_den_pos hn 1 e
  have hratio (n : Nat) (e : Int) :
      (n : ℚ) ^ e = ((scaled n 1 e).1 : ℚ) / (scaled n 1 e).2 := by
    rw [scaled_ratio, Nat.cast_one, one_mul]
  rw [powerLt, decide_eq_true_eq, hratio, hratio, div_lt_div_iff₀ (hden hbase d) (hden hother e)]
  exact_mod_cast Iff.rfl

/-- The powers of two between two decimals of eight digits of which the nearer one, below, is not
read as the power, while the one above is. With each power goes the decimal above. -/
def missed : List (Magnitude × Number) :=
  [(⟨2 ^ 23, -119⟩, ⟨12621775, -36⟩), (⟨2 ^ 23, 64⟩, ⟨15474251, 19⟩),
    (⟨2 ^ 23, 67⟩, ⟨12379401, 20⟩)]

theorem middle_places : ∀ n : Nat, n < 254 →
    powerLt 10 (middleGrid (n - 149) - 1) 2 (n - 149 - 2) = true ∧
      powerLt 10 (middleGrid (n - 149) + 1) 2 (n - 149 + 1) = false := by
  decide +kernel

theorem settled_least : ∀ j < 24, Magnitude.settled ⟨2 ^ j, -149⟩ (middleGrid (-149)) = true := by
  decide +kernel

theorem settled_powers : ∀ n : Nat, n < 254 →
    (⟨2 ^ 23, n - 149⟩ : Magnitude) ∈ missed.map (·.1) ∨
      Magnitude.settled ⟨2 ^ 23, n - 149⟩ (middleGrid (n - 149)) = true := by
  decide +kernel

section Digits

variable {x : Magnitude}

theorem Magnitude.settled_middle (hx : x.IsOf single) {j : Nat} (hj : x.mantissa = 2 ^ j)
    (hmissed : x ∉ missed.map (·.1)) : x.settled (middleGrid x.exponent) = true := by
  have hbits : single.lowest = -149 ∧ single.highest = 104 := by decide
  have hleast := hx.least
  have hgreatest := hx.greatest
  have hexponent : j < 24 := by
    refine (Nat.pow_lt_pow_iff_right (show 1 < 2 by decide)).mp ?_
    rw [← hj]
    exact hx.size
  obtain ⟨m, place⟩ := x
  obtain rfl : m = 2 ^ j := hj
  rcases eq_or_ne place (-149) with rfl | hplace
  · exact settled_least j hexponent
  · dsimp only at hleast hgreatest
    obtain ⟨n, rfl⟩ : ∃ n : Nat, place = n - 149 := ⟨(place + 149).toNat, by omega⟩
    have hfull : 2 ^ 23 ≤ 2 ^ j := hx.full.resolve_left (by dsimp only; omega)
    obtain rfl : j = 23 := by
      have hle := (Nat.pow_le_pow_iff_right (show 1 < 2 by decide)).mp hfull
      omega
    exact (settled_powers n (by omega)).resolve_left hmissed

/-- On every grid the nearest decimal decides, unless the number is one of the missed ones. -/
theorem Magnitude.decides (hx : x.IsOf single) (hne : x.mantissa ≠ 0)
    (hmissed : x ∉ missed.map (·.1)) (e : Int) : x.Decides e := by
  by_cases hpower : ∃ j, x.mantissa = 2 ^ j
  · obtain ⟨j, hj⟩ := hpower
    have hbits : single.lowest = -149 ∧ single.highest = 104 := by decide
    have hleast := hx.least
    have hgreatest := hx.greatest
    obtain ⟨n, hn⟩ : ∃ n : Nat, x.exponent = n - 149 := ⟨(x.exponent + 149).toNat, by omega⟩
    obtain ⟨hfine, hcoarse⟩ := middle_places n (by omega)
    rw [← hn, powerLt_iff (by decide) (by decide)] at hfine
    rw [← hn, ← Bool.not_eq_true, powerLt_iff (by decide) (by decide), not_lt] at hcoarse
    -- only one grid is neither fine nor coarse, and the table has it
    rcases lt_trichotomy e (middleGrid x.exponent) with hless | rfl | hmore
    · exact decides_of_fine hx hne ((ten_zpow_le (by omega)).trans_lt hfine)
    · exact decides_of_settled hx hne (settled_middle hx hj hmissed)
    · exact decides_of_coarse hx hne (hcoarse.trans (ten_zpow_le (by omega)))
  · exact decides_of_mirror hx hne (fun j hj => hpower ⟨j, hj⟩) e

theorem Magnitude.reads_nine (hx : x.IsOf single) (hne : x.mantissa ≠ 0) :
    x.Reads (significant 9 x.quotient.1 x.quotient.2).toRat := by
  have hnear : 2 * |(significant 9 x.quotient.1 x.quotient.2).toRat - x.toRat| ≤
      x.toRat / 10 ^ 8 := significant_relative hne 8
  have hsize : (x.mantissa : ℚ) < 2 ^ 24 := by exact_mod_cast hx.size
  refine reads_of_near hx hne ?_
  calc 8 * |(significant 9 x.quotient.1 x.quotient.2).toRat - x.toRat|
      ≤ 4 * (x.toRat / 10 ^ 8) := by linarith
    _ = x.mantissa * (4 / 10 ^ 8) * 2 ^ x.exponent := by
        rw [Magnitude.toRat]
        ring
    _ < 1 * 2 ^ x.exponent := mul_lt_mul_of_pos_right (by linarith) (two_zpow_pos _)
    _ = 2 ^ x.exponent := one_mul _

theorem readsBackText?_of_reads (hx : x.IsOf single) {d : Number} (h : x.Reads d.toRat) :
    ∃ text, readsBackText? x d = some text := by
  obtain ⟨wide, hwide, hcovers, hnarrow⟩ := h
  have hround := (d.round?_eq_some_iff double_isBounded wide).mpr ⟨hwide, hcovers⟩
  have hback := (wide.round?_eq_some_iff single_isBounded x).mpr ⟨hx, hnarrow⟩
  refine ⟨(shortest double wide).text plainLayout, ?_⟩
  simp only [readsBackText?, hround, hback, Option.bind_eq_bind, Option.bind_some, if_pos]

theorem singleTextFrom_le (hx : x.IsOf single) {tries count n : Nat} (hcount : count ≤ n)
    (hn : n < count + tries) (h : x.Reads (significant n x.quotient.1 x.quotient.2).toRat) :
    ∃ k text, count ≤ k ∧ k ≤ n ∧ singleTextFrom x tries count = some text ∧
      readsBackText? x (significant k x.quotient.1 x.quotient.2) = some text := by
  induction tries generalizing count with
  | zero => omega
  | succ tries ih =>
      rw [singleTextFrom]
      cases hfirst : readsBackText? x (significant count x.quotient.1 x.quotient.2) with
      | some text => exact ⟨count, text, le_rfl, hcount, rfl, hfirst⟩
      | none =>
          have hmore : count ≠ n := by
            rintro rfl
            obtain ⟨text, htext⟩ := readsBackText?_of_reads hx h
            cases hfirst.symm.trans htext
          obtain ⟨k, text, hk, hrest⟩ := ih (show count + 1 ≤ n by omega) (by omega)
          exact ⟨k, text, by omega, hrest⟩

theorem readsBackText?_digitCount (hne : x.mantissa ≠ 0) {number : Number} {text : String}
    (h : readsBackText? x number = some text) : Unsigned 16 text.toList ∧ ∃ printed,
      Number.ofChars? text.toList = some printed ∧ printed.digitCount ≤ number.digitCount := by
  obtain ⟨wide, hwide, hcovers, hnarrow, rfl⟩ := Binary.readsBackText?_wide h
  obtain ⟨printed, hread, hvalue⟩ := ofChars?_text (shortest double wide)
  refine ⟨unsigned_shortest double wide, printed, hread, ?_⟩
  rw [Number.digitCount_congr hvalue]
  refine shortest_digitCount (fun hzero => ?_) hcovers
  have hback := ((wide.round?_eq_some_iff single_isBounded x).mp hnarrow).2
  rw [Magnitude.toRat_zero hzero] at hback
  exact lt_irrefl 0 (hback.pos hne)

theorem singleTextFrom_digitCount (hx : x.IsOf single) (hne : x.mantissa ≠ 0) : ∃ text printed,
    singleTextFrom x 9 1 = some text ∧ Unsigned 16 text.toList ∧
      Number.ofChars? text.toList = some printed ∧
      ∀ n, 0 < n → n ≤ 9 → x.Reads (significant n x.quotient.1 x.quotient.2).toRat →
        printed.digitCount ≤ n := by
  have hden := (x.quotient_pos hne).2
  have hfound {n : Nat} (hpos : 0 < n) (hn : n ≤ 9)
      (h : x.Reads (significant n x.quotient.1 x.quotient.2).toRat) : ∃ text printed,
      singleTextFrom x 9 1 = some text ∧ Unsigned 16 text.toList ∧
        Number.ofChars? text.toList = some printed ∧ printed.digitCount ≤ n := by
    obtain ⟨k, text, hk, hkn, htext, hread⟩ := singleTextFrom_le hx (show 1 ≤ n from hpos)
      (show n < 1 + 9 by omega) h
    obtain ⟨hunsigned, printed, hprinted, hcount⟩ := readsBackText?_digitCount hne hread
    exact ⟨text, printed, htext, hunsigned, hprinted,
      (hcount.trans (digitCount_significant hk _ hden)).trans hkn⟩
  obtain ⟨text, printed, htext, hunsigned, hprinted, -⟩ :=
    hfound (by decide) le_rfl (x.reads_nine hx hne)
  refine ⟨text, printed, htext, hunsigned, hprinted, fun n hpos hn h => ?_⟩
  -- the search is the same one, so its text is
  obtain ⟨text', printed', htext', -, hprinted', hcount⟩ := hfound hpos hn h
  obtain rfl := Option.some.inj (htext.symm.trans htext')
  obtain rfl := Option.some.inj (hprinted.symm.trans hprinted')
  exact hcount

theorem digitCount_le_of_reads (hx : x.IsOf single) (hne : x.mantissa ≠ 0)
    (hmissed : x ∉ missed.map (·.1)) {count : Nat}
    (hcount : ∀ n, 0 < n → n ≤ 9 → x.Reads (significant n x.quotient.1 x.quotient.2).toRat →
      count ≤ n) {d : Number} (hd : x.Reads d.toRat) : count ≤ d.digitCount := by
  obtain ⟨hnum, hden⟩ := x.quotient_pos hne
  rcases le_or_gt d.digitCount 9 with hle | hmore
  · refine hcount d.digitCount d.digitCount_pos hle ?_
    have hplace := ten_zpow_leadingPlace hnum hden
    rw [x.quotient_ratio] at hplace
    obtain ⟨c, hc⟩ := exists_onGrid (Magnitude.reads_ordConnected hne) (Magnitude.reads_toRat hx)
      hplace hd
    exact x.decides hx hne hmissed _ c hc
  · exact (hcount 9 (by decide) le_rfl (x.reads_nine hx hne)).trans hmore.le

theorem missed_digits : ∀ m ∈ missed, m.1.readsBack m.2 = true ∧ m.2.digitCount = 8 ∧
    ((singleTextFrom m.1 9 1).bind fun text =>
      (Number.ofChars? text.toList).map Number.digitCount) = some 9 := by
  decide +kernel

end Digits

namespace Binary

theorem toSingle_toDouble_iff {size : Magnitude} (h : size.IsOf single) (negative sign : Bool)
    (d : Number) : (d.toDouble sign).toSingle = .finite negative size ↔
      sign = negative ∧ size.Reads d.toRat := by
  constructor
  · intro heq
    cases hwide : d.round? double with
    | none =>
        simp only [Number.toDouble, hwide, toSingle] at heq
        cases heq
    | some wide =>
        cases hnarrow : wide.round? single with
        | none =>
            simp only [Number.toDouble, hwide, toSingle, hnarrow] at heq
            cases heq
        | some narrow =>
            simp only [Number.toDouble, hwide, toSingle, hnarrow] at heq
            cases heq
            obtain ⟨hof, hcovers⟩ := (d.round?_eq_some_iff double_isBounded wide).mp hwide
            exact ⟨rfl, wide, hof, hcovers,
              ((wide.round?_eq_some_iff single_isBounded size).mp hnarrow).2⟩
  · rintro ⟨rfl, wide, hof, hcovers, hnarrow⟩
    have hround := (d.round?_eq_some_iff double_isBounded wide).mpr ⟨hof, hcovers⟩
    have hback := (wide.round?_eq_some_iff single_isBounded size).mpr ⟨h, hnarrow⟩
    simp only [Number.toDouble, hround, toSingle, hback]

/-- No decimal with fewer digits than the text of a four-byte number is read back as the number,
unless the number is one of the three missed powers of two, for which there is one. -/
theorem singleText_fewest {b : Bytes} {negative : Bool} {size : Magnitude}
    (h : ofBytes single b = .finite negative size) (hne : size.mantissa ≠ 0) :
    ∃ rest printed, splitSign (ofBytes single b).singleText.toList = (negative, rest) ∧
      Number.ofChars? rest = some printed ∧
      ((∀ (sign : Bool) (d : Number), (d.toDouble sign).toSingle = ofBytes single b →
        printed.digitCount ≤ d.digitCount) ↔ size ∉ missed.map (·.1)) := by
  have hof := ofBits_isOf single_isBounded h
  obtain ⟨text, printed, htext, hunsigned, hprinted, hcount⟩ := singleTextFrom_digitCount hof hne
  refine ⟨text.toList, printed, ?_, hprinted, ?_⟩
  · rw [h, singleText, if_neg hne, htext, String.toList_append]
    exact (splitSign_unsigned hunsigned negative).1
  · rw [h]
    constructor
    · intro hfewest hmissed
      obtain ⟨m, hm, rfl⟩ := List.mem_map.mp hmissed
      obtain ⟨hread, height, hnine⟩ := missed_digits m hm
      rw [htext, Option.bind_some, hprinted, Option.map_some] at hnine
      have hback := hfewest negative m.2 ((toSingle_toDouble_iff hof negative negative m.2).mpr
        ⟨rfl, (Magnitude.readsBack_iff hof m.2).mp hread⟩)
      have hcounts := Option.some.inj hnine
      omega
    · intro hmissed sign d hread
      exact digitCount_le_of_reads hof hne hmissed hcount
        ((toSingle_toDouble_iff hof negative sign d).mp hread).2

/-- A third needs the eight digits of its text. -/
theorem singleText_fewest_third :
    (ofBytes single [0x3e, 0xaa, 0xaa, 0xab]).singleText = "0.33333334" ∧
      ∀ (sign : Bool) (d : Number),
        (d.toDouble sign).toSingle = ofBytes single [0x3e, 0xaa, 0xaa, 0xab] →
          8 ≤ d.digitCount := by
  have htext : (ofBytes single [0x3e, 0xaa, 0xaa, 0xab]).singleText = "0.33333334" := by
    decide +kernel
  have hbits : ofBytes single [0x3e, 0xaa, 0xaa, 0xab] = .finite false ⟨11184811, -25⟩ := by
    decide
  obtain ⟨rest, printed, hsign, hprinted, hfewest⟩ := singleText_fewest hbits (by decide)
  rw [htext] at hsign
  have hrest : splitSign "0.33333334".toList = (false, "0.33333334".toList) := rfl
  have hread : Number.ofChars? "0.33333334".toList = some ⟨33333334, -8⟩ := by decide +kernel
  have hcount : Number.digitCount ⟨33333334, -8⟩ = 8 := by decide +kernel
  obtain rfl := (Prod.mk.inj (hrest.symm.trans hsign)).2
  obtain rfl := Option.some.inj (hread.symm.trans hprinted)
  rw [hcount] at hfewest
  exact ⟨htext, hfewest.mpr (by decide)⟩

/-- A power of two with a text of nine digits, while a decimal of eight is read back as well. -/
theorem singleText_missed : ¬∀ (b : Bytes) (negative : Bool) (size : Magnitude),
    ofBytes single b = .finite negative size → size.mantissa ≠ 0 →
    ∀ rest printed, splitSign (ofBytes single b).singleText.toList = (negative, rest) →
      Number.ofChars? rest = some printed →
      ∀ (sign : Bool) (d : Number), (d.toDouble sign).toSingle = ofBytes single b →
        printed.digitCount ≤ d.digitCount := by
  intro hclaim
  have hless := hclaim [0x0f, 0x80, 0x00, 0x00] false ⟨2 ^ 23, -119⟩ (by decide) (by decide)
    "1.26217745e-29".toList ⟨126217745, -37⟩ (by decide +kernel) (by decide +kernel) false
    ⟨12621775, -36⟩ (by decide +kernel)
  exact absurd hless (by decide +kernel)

end Binary

end RawSeries.Decimal
