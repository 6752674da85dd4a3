import RawSeries.Point.Cell
import RawSeries.Proofs.FloatTexts

namespace RawSeries

/-- A whole number in two's complement, when it fits. -/
def Bytes.encodeSigned? (width : Nat) (n : Int) : Option Bytes :=
  if -(Nat.pow 256 width : Int) ≤ 2 * n ∧ 2 * n < Nat.pow 256 width then
    some (encode width (n % Nat.pow 256 width).toNat)
  else none

namespace Point

/-- A type of values: whole numbers of some length, or floating point numbers of four or eight
bytes. -/
inductive Kind where
  | whole (width : Nat)
  | single
  | double
deriving DecidableEq

/-- The bytes of the value of a type that a text writes. Four-byte numbers are rounded twice. -/
def Kind.ofText? (kind : Kind) (text : String) : Option Bytes :=
  match kind with
  | .whole width => (Numeral.ofChars? text.toList).bind (Bytes.encodeSigned? width)
  | .single => (Decimal.Binary.ofChars? text.toList).map fun x =>
      Bytes.encode 4 (x.toSingle.toBits Decimal.single)
  | .double => (Decimal.Binary.ofChars? text.toList).map fun x =>
      Bytes.encode 8 (x.toBits Decimal.double)

end Point

/-- The type of a cell: what its qualifier says and the length of its value. -/
def Cell.kind (c : Cell) : Except Point.Flaw Point.Kind := do
  return if ← c.isWhole then .whole c.value.length
    else if c.value.length = 4 then .single else .double

namespace Bytes

/-- Two's complement is within half of the range around zero, and is the number that the bytes write
but for the range. -/
theorem signedValue_bounds (b : Bytes) :
    -(Nat.pow 256 b.length : Int) ≤ 2 * signedValue b ∧
      2 * signedValue b < Nat.pow 256 b.length ∧
      signedValue b % Nat.pow 256 b.length = value b := by
  cases b with
  | nil => decide
  | cons x b =>
      have hrest := value_lt b
      have hvalue := value_cons x b
      have hless := value_lt (x :: b)
      have hpow : Nat.pow 256 (x :: b).length = 256 * Nat.pow 256 b.length := Nat.pow_succ'
      by_cases hx : x < 128
      · have hfirst : (x.toNat + 1) * Nat.pow 256 b.length ≤ 128 * Nat.pow 256 b.length :=
          Nat.mul_le_mul_right _ hx
        rw [Nat.add_mul] at hfirst
        have hsigned : signedValue (x :: b) = value (x :: b) := if_pos hx
        rw [hsigned]
        exact ⟨by omega, by omega, Int.emod_eq_of_lt (by omega) (by omega)⟩
      · have hfirst : 128 * Nat.pow 256 b.length ≤ x.toNat * Nat.pow 256 b.length :=
          Nat.mul_le_mul_right _ (Nat.le_of_not_lt hx)
        have hsigned : signedValue (x :: b) =
            (value (x :: b) : Int) - Nat.pow 256 (x :: b).length := if_neg hx
        rw [hsigned]
        refine ⟨by omega, by omega, ?_⟩
        rw [Int.sub_emod_right]
        exact Int.emod_eq_of_lt (by omega) (by omega)

theorem encodeSigned?_signedValue (b : Bytes) :
    encodeSigned? b.length (signedValue b) = some b := by
  obtain ⟨hlow, hhigh, hvalue⟩ := signedValue_bounds b
  rw [encodeSigned?, if_pos ⟨hlow, hhigh⟩, hvalue, Int.toNat_natCast, encode_value]

end Bytes

namespace Cell

theorem read_cases {c : Cell} {v : Point.Value} (h : c.read = .ok v) :
    (c.kind = .ok (.whole c.value.length) ∧ v = .whole (Bytes.signedValue c.value)) ∨
      (c.kind = .ok .single ∧ c.value.length = 4 ∧
        v = .single (.ofBytes Decimal.single c.value)) ∨
      (c.kind = .ok .double ∧ c.value.length = 8 ∧
        v = .double (.ofBytes Decimal.double c.value)) := by
  rw [read] at h
  rw [kind]
  cases hwhole : c.isWhole with
  | error flaw =>
      rw [hwhole] at h
      cases h
  | ok whole =>
      rw [hwhole] at h
      cases whole with
      | true =>
          refine .inl ⟨rfl, ?_⟩
          simp only [bind, Except.bind, if_true] at h
          split at h
          · exact (Except.ok.inj h).symm
          · cases h
      | false =>
          simp only [bind, Except.bind, Bool.false_eq_true, if_false] at h
          split at h
          · rename_i hfour
            refine .inr (.inl ⟨?_, hfour, (Except.ok.inj h).symm⟩)
            simp [hfour]
          · rename_i hfour
            split at h
            · rename_i height
              refine .inr (.inr ⟨?_, height, (Except.ok.inj h).symm⟩)
              simp [hfour]
            · cases h

/-- The text of a value that is no NaN is read back, in the type of the cell, as the bytes of the
value. -/
theorem reads_valueText {c : Cell} {v : Point.Value} (h : c.read = .ok v)
    (hsingle : v ≠ .single .nan) (hdouble : v ≠ .double .nan) :
    ∃ kind text, c.kind = .ok kind ∧ c.valueText = .ok text ∧
      kind.ofText? text = some c.value := by
  have htext : c.valueText = .ok v.text := by rw [valueText, h]; rfl
  obtain ⟨hkind, rfl⟩ | ⟨hkind, hlength, rfl⟩ | ⟨hkind, hlength, rfl⟩ := read_cases h
  · refine ⟨_, _, hkind, htext, ?_⟩
    rw [Point.Kind.ofText?, Point.Value.text, Numeral.ofChars?_integer, Option.bind_some,
      Bytes.encodeSigned?_signedValue]
  · refine ⟨_, _, hkind, htext, ?_⟩
    have hnan : Decimal.Binary.ofBytes Decimal.single c.value ≠ .nan :=
      fun hnan => hsingle (by rw [hnan])
    have hread := Decimal.Binary.ofChars?_singleText hnan
    have hencode := Decimal.Binary.encode_toBits Decimal.single_isBounded
      (by rw [hlength]; rfl) hnan
    rw [Option.map_eq_some_iff] at hread
    obtain ⟨wide, hread, hnarrow⟩ := hread
    rw [hlength] at hencode
    rw [Point.Kind.ofText?, Point.Value.text, hread, Option.map_some, hnarrow, hencode]
  · refine ⟨_, _, hkind, htext, ?_⟩
    have hnan : Decimal.Binary.ofBytes Decimal.double c.value ≠ .nan :=
      fun hnan => hdouble (by rw [hnan])
    have hread := Decimal.Binary.ofChars?_text hnan
    have hencode := Decimal.Binary.encode_toBits Decimal.double_isBounded
      (by rw [hlength]; rfl) hnan
    rw [hlength] at hencode
    rw [Point.Kind.ofText?, Point.Value.text, hread, Option.map_some, hencode]

theorem reads_valueText_tenth :
    let c : Cell := ⟨[0, 11], [189, 204, 204, 205]⟩
    c.read = .ok (.single (.finite true ⟨13421773, -27⟩)) ∧
      ∃ kind text, c.kind = .ok kind ∧ c.valueText = .ok text ∧
        kind.ofText? text = some c.value := by
  have hread : (⟨[0, 11], [189, 204, 204, 205]⟩ : Cell).read =
      .ok (.single (.finite true ⟨13421773, -27⟩)) := by
    have hvalue : Decimal.Binary.ofBytes Decimal.single [189, 204, 204, 205] =
        .finite true ⟨13421773, -27⟩ := by decide +kernel
    rw [← hvalue]
    rfl
  exact ⟨hread, reads_valueText hread nofun nofun⟩

end Cell

end RawSeries
