import RawSeries.Manifest.Coverage
import RawSeries.Manifest.Line
import RawSeries.Proofs.JsonObjects

namespace RawSeries

/-- A number that can be written: a whole number has no more digits than are read back. -/
def Quantity.IsShort : Quantity → Prop
  | .whole n => (Numeral.digits n.natAbs).length ≤ Json.maxDigits
  | .real _ => True

/-- A record whose numbers can be written. Any text can. -/
structure Record.IsWritable (r : Record) : Prop where
  rows : r.rows.IsShort
  elapsed : r.elapsed.IsShort
  updated : r.updated.IsShort

instance (q : Quantity) : Decidable q.IsShort :=
  match q with
  | .whole n => inferInstanceAs (Decidable ((Numeral.digits n.natAbs).length ≤ Json.maxDigits))
  | .real _ => inferInstanceAs (Decidable True)

instance (r : Record) : Decidable r.IsWritable :=
  decidable_of_iff
    (r.rows.IsShort ∧ r.elapsed.IsShort ∧ r.updated.IsShort)
    ⟨fun ⟨rows, elapsed, updated⟩ => ⟨rows, elapsed, updated⟩,
      fun h => ⟨h.rows, h.elapsed, h.updated⟩⟩

namespace Json

def Printed (cs : List Char) : Prop :=
  ∀ c ∈ cs, isPrinted c = true

theorem Printed.append {a b : List Char} (ha : Printed a) (hb : Printed b) : Printed (a ++ b) := by
  intro c hc
  rcases List.mem_append.mp hc with hc | hc
  · exact ha c hc
  · exact hb c hc

theorem Printed.cons {c : Char} (hc : isPrinted c = true) {cs : List Char} (h : Printed cs) :
    Printed (c :: cs) :=
  List.forall_mem_cons.mpr ⟨hc, h⟩

theorem printed_unitEscape (n : Nat) : Printed (unitEscape n) := by
  have hdigit (k : Nat) : isPrinted (Bytes.hexChar (k % 16)) = true := by
    have hall : ∀ k : Fin 16, isPrinted (Bytes.hexChar k) = true := by decide
    exact hall ⟨k % 16, Nat.mod_lt k (by decide)⟩
  exact .cons (by decide) (.cons (by decide) (.cons (hdigit _) (.cons (hdigit _)
    (.cons (hdigit _) (.cons (hdigit _) nofun)))))

theorem printed_escapeChar (c : Char) : Printed (escapeChar c) := by
  rcases escapeChar_cases c with ⟨hself, -, -, hc⟩ | ⟨e, hshort, -, -, he⟩ | hunits
  · rw [hself]
    exact .cons hc nofun
  · rw [hshort]
    exact .cons (by decide) (.cons he nofun)
  · simp only [hunits, unitEscapes]
    split
    · exact printed_unitEscape _
    · exact (printed_unitEscape _).append (printed_unitEscape _)

theorem printed_writeText (s : WideText) : Printed (writeText s) := by
  have hbody : Printed (s.points.flatMap escapePoint) := by
    intro c hc
    obtain ⟨x, -, hx⟩ := List.mem_flatMap.mp hc
    cases x with
    | char d => exact printed_escapeChar d c hx
    | half h => exact printed_unitEscape h.unit c hx
  rw [writeText]
  exact .append (.cons (by decide) hbody) (.cons (by decide) (List.forall_mem_nil _))

theorem IsScalar.printed {w : List Char} (h : IsScalar w) : Printed w := by
  intro c hc
  have hplain := h.plain c hc
  rw [isPlain, Bool.and_eq_true] at hplain
  exact hplain.1

theorem printed_writeFields {fs : List (WideText × Json)}
    (h : ∀ f ∈ fs, Printed (writeChars f.2)) : Printed (writeFields fs) := by
  induction fs with
  | nil => exact nofun
  | cons f fs ih =>
      obtain ⟨name, x⟩ := f
      obtain ⟨hx, hfs⟩ := List.forall_mem_cons.mp h
      have hmore : Printed (writeMore fs) := by
        cases fs with
        | nil => exact nofun
        | cons f fs => exact .cons (by decide) (ih hfs)
      rw [writeFields_cons]
      exact (printed_writeText name).append (.cons (by decide) (.append hx hmore))

theorem printed_object {fs : List (WideText × Json)} (h : ∀ f ∈ fs, Printed (writeChars f.2)) :
    Printed (writeChars (.object fs)) := by
  rw [writeChars_object]
  exact .cons (by decide) ((printed_writeFields h).append (.cons (by decide) nofun))

end Json

namespace Manifest

open Json (IsScalar Junk Legible Printed ReadsBack)

def text (r : Record) : List Char :=
  Json.writeChars (recordJson r)

theorem toList_line (r : Record) : (line r).toList = text r ++ ['\n'] := by
  simp [line, lineOf, Json.write, text]

theorem isScalar_number {q : Quantity} (h : q.IsShort) :
    IsScalar (Json.writeChars (numberJson q)) := by
  cases q with
  | whole n => exact Json.isScalar_whole h
  | real x => exact Json.isScalar_real x

theorem printed_textJson (s : Option String) : Printed (Json.writeChars (textJson s)) := by
  cases s with
  | none => exact Json.isScalar_null.printed
  | some s =>
      rw [textJson, Json.writeChars]
      exact Json.printed_writeText s

theorem legible_textJson (s : Option String) :
    ∃ v, Legible (Json.writeChars (textJson s)) v := by
  cases s with
  | none => exact Json.isScalar_null.legible
  | some s =>
      rw [textJson, Json.writeChars]
      exact ⟨_, Json.legible_text s⟩

theorem printed_text {r : Record} (h : r.IsWritable) : Printed (text r) := by
  refine Json.printed_object ?_
  simp only [List.forall_mem_cons]
  refine ⟨?_, ?_, (isScalar_number h.rows).printed, (isScalar_number h.elapsed).printed,
    printed_textJson r.error, (isScalar_number h.updated).printed, nofun⟩
  · rw [Json.writeChars]
    exact Json.printed_writeText _
  · rw [Json.writeChars]
    exact Json.printed_writeText _

theorem text_ends (r : Record) : ∃ inner, text r = '{' :: (inner ++ ['}']) :=
  ⟨_, Json.writeChars_object _⟩

def writtenFields (r : Record) : List (WideText × Json) :=
  [("metric", .text r.metric), ("status", .text r.status.word), ("rows", numberJson r.rows),
    ("elapsed_ms", numberJson r.elapsed), ("error", textJson r.error),
    ("updated_at", numberJson r.updated)]

theorem exists_readsBack {r : Record} (h : r.IsWritable) :
    ∃ rows elapsed error updated, ReadsBack (writtenFields r)
      [("metric", .text r.metric), ("status", .text r.status.word), ("rows", rows),
        ("elapsed_ms", elapsed), ("error", error), ("updated_at", updated)] := by
  obtain ⟨rows, hrows⟩ := (isScalar_number h.rows).legible
  obtain ⟨elapsed, helapsed⟩ := (isScalar_number h.elapsed).legible
  obtain ⟨error, herror⟩ := legible_textJson r.error
  obtain ⟨updated, hupdated⟩ := (isScalar_number h.updated).legible
  have htext (s : String) : Legible (Json.writeChars (.text s)) (.text s) := by
    rw [Json.writeChars]
    exact Json.legible_text s
  exact ⟨rows, elapsed, error, updated,
    .cons (htext r.metric) (.cons (htext r.status.word)
      (.cons hrows (.cons helapsed (.cons herror (.cons hupdated .nil)))))⟩

theorem entry?_text {r : Record} (h : r.IsWritable) :
    Coverage.entry? (String.ofList (text r)) =
      .ok (some (.text r.metric, .text r.status.word)) := by
  obtain ⟨rows, elapsed, error, updated, hfields⟩ := exists_readsBack h
  have hread := Json.read_object hfields (List.cons_ne_nil _ _)
  have htext : text r = Json.writeChars (.object (writtenFields r)) := rfl
  rw [Coverage.entry?, htext, hread]
  rfl

theorem junk_text {r : Record} (h : r.IsWritable) : Junk (text r) := by
  obtain ⟨rows, elapsed, error, updated, hfields⟩ := exists_readsBack h
  exact Json.junk_object hfields (show "metric".toList = 'm' :: _ from rfl) (by decide) (by decide)
    rfl

/-- A record that is cut short is not read, neither alone nor with the text of another record after
it, and nor is a whole record with other text after it. -/
theorem entry?_torn {r : Record} (h : r.IsWritable) {p more : List Char} (hp : p <+: text r)
    (hne : p ≠ []) (hmore : Junk more) (hcut : p ≠ text r ∨ more ≠ []) :
    Coverage.entry? (String.ofList (p ++ more)) = .ok none := by
  obtain ⟨rows, elapsed, error, updated, hfields⟩ := exists_readsBack h
  have hread := Json.read_torn hfields (List.cons_ne_nil _ _) hp hne hmore hcut
  rw [Coverage.entry?, hread]

end Manifest

end RawSeries
