import RawSeries.Bytes.Listing
import RawSeries.Proofs.NumberTexts
import RawSeries.Proofs.TextParts

namespace RawSeries

namespace Numeral

theorem integer_injective : Function.Injective integer := by
  intro i j h
  have hread := ofChars?_integer i
  rw [h, ofChars?_integer] at hread
  exact (Option.some.inj hread).symm

theorem integer_all {p : Char → Prop} (hdigit : ∀ d < 10, p (digitChar d)) (hminus : p '-')
    (i : Int) : ∀ c ∈ (integer i).toList, p c := by
  cases i with
  | ofNat n => exact natural_all hdigit n
  | negSucc n =>
      rw [integer, String.toList_append]
      exact List.forall_mem_append.mpr
        ⟨List.forall_mem_singleton.mpr hminus, natural_all hdigit (n + 1)⟩

theorem integer_ne_nil (i : Int) : (integer i).toList ≠ [] := by
  intro hempty
  have hread := ofChars?_integer i
  rw [hempty] at hread
  cases hread

end Numeral

namespace Bytes

variable {numbers more : List Int} {s t : List Char}

/-- The characters between the brackets. -/
def numbersText (numbers : List Int) : List Char :=
  [',', ' '].intercalate (numbers.map fun i => (Numeral.integer i).toList)

theorem toList_bracketed (numbers : List Int) :
    (bracketed numbers).toList = '[' :: (numbersText numbers ++ [']']) := by
  simp [bracketed, numbersText, Function.comp_def]

theorem numbersText_injective : Function.Injective numbersText := by
  have hparts : ∀ numbers : List Int,
      ∀ part ∈ numbers.map fun i => (Numeral.integer i).toList, part ≠ [] ∧ ',' ∉ part := by
    intro numbers part hpart
    obtain ⟨i, -, rfl⟩ := List.mem_map.mp hpart
    have hall : ∀ c ∈ (Numeral.integer i).toList, c ≠ ',' :=
      Numeral.integer_all (by decide) (by decide) i
    exact ⟨Numeral.integer_ne_nil i, fun hcomma => hall ',' hcomma rfl⟩
  intro numbers more h
  have hmap := Text.intercalate_inj (hparts numbers) (hparts more) h
  refine List.map_injective_iff.mpr (fun i j hij => ?_) hmap
  exact Numeral.integer_injective (String.toList_inj.mp hij)

theorem brackets_not_mem (numbers : List Int) :
    '[' ∉ numbersText numbers ∧ ']' ∉ numbersText numbers := by
  have hcommas : ∀ c ∈ [',', ' '], c ≠ '[' ∧ c ≠ ']' := by simp
  have hall : ∀ c ∈ numbersText numbers, c ≠ '[' ∧ c ≠ ']' := by
    refine Text.forall_mem_intercalate hcommas fun part hpart => ?_
    obtain ⟨i, -, rfl⟩ := List.mem_map.mp hpart
    exact Numeral.integer_all (by decide) (by decide) i
  exact ⟨fun hleft => (hall _ hleft).1 rfl, fun hright => (hall _ hright).2 rfl⟩

theorem bracketed_append_inj :
    (bracketed numbers).toList ++ s = (bracketed more).toList ++ t ↔ numbers = more ∧ s = t := by
  rw [toList_bracketed, toList_bracketed]
  simp only [List.cons_append, List.append_assoc, List.nil_append, List.cons.injEq, true_and]
  rw [Text.append_cons_inj (brackets_not_mem numbers).2 (brackets_not_mem more).2,
    numbersText_injective.eq_iff]

theorem append_bracketed_inj :
    s ++ (bracketed numbers).toList = t ++ (bracketed more).toList ↔ s = t ∧ numbers = more := by
  have hstart (numbers : List Int) : '[' ∉ ']' :: (numbersText numbers).reverse := by
    simpa using (brackets_not_mem numbers).1
  -- backwards, the last opening bracket is the first one
  rw [toList_bracketed, toList_bracketed, ← List.reverse_inj]
  simp only [List.reverse_append, List.reverse_cons, List.reverse_nil, List.nil_append,
    List.cons_append, List.append_assoc]
  rw [← List.cons_append, ← List.cons_append,
    Text.append_cons_inj (hstart numbers) (hstart more)]
  simp [numbersText_injective.eq_iff, and_comm]

theorem signedByte_emod (x : UInt8) : signedByte x % 256 = x.toNat := by
  have hx := x.toNat_lt
  unfold signedByte
  split <;> omega

theorem signedByte_injective : Function.Injective signedByte := by
  intro x y h
  have hbytes : (x.toNat : Int) = y.toNat := by rw [← signedByte_emod, h, signedByte_emod]
  exact UInt8.toNat.inj (Int.ofNat.inj hbytes)

theorem signedListing_append_inj {a b : Bytes} :
    (signedListing a).toList ++ s = (signedListing b).toList ++ t ↔ a = b ∧ s = t := by
  rw [signedListing, signedListing, bracketed_append_inj,
    (List.map_injective_iff.mpr signedByte_injective).eq_iff]

theorem append_signedListing_inj {a b : Bytes} :
    s ++ (signedListing a).toList = t ++ (signedListing b).toList ↔ s = t ∧ a = b := by
  rw [signedListing, signedListing, append_bracketed_inj,
    (List.map_injective_iff.mpr signedByte_injective).eq_iff]

theorem signedListing_injective : Function.Injective signedListing := by
  intro a b h
  exact (signedListing_append_inj.mp (congrArg (·.toList ++ []) h)).1

end Bytes

end RawSeries
