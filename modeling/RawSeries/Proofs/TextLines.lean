import RawSeries.Text.Blank

namespace RawSeries.Text

/-- Characters that end no line. -/
def Unbroken (cs : List Char) : Prop :=
  ∀ c ∈ cs, c ≠ '\n' ∧ c ≠ '\r'

instance : DecidablePred Unbroken :=
  fun cs => List.decidableBAll (fun c => c ≠ '\n' ∧ c ≠ '\r') cs

theorem linesFrom_cons {c : Char} (h : c ≠ '\n' ∧ c ≠ '\r') (current rest : List Char) :
    linesFrom current (c :: rest) = linesFrom (c :: current) rest := by
  rw [linesFrom, if_neg (by simp [h])]
  exact fun _ hc => absurd hc h.2

theorem linesFrom_append {cs : List Char} (h : Unbroken cs) (current rest : List Char) :
    linesFrom current (cs ++ rest) = linesFrom (cs.reverse ++ current) rest := by
  induction cs generalizing current with
  | nil => rfl
  | cons c cs ih =>
      obtain ⟨hc, hcs⟩ := List.forall_mem_cons.mp h
      rw [List.cons_append, linesFrom_cons hc, ih hcs]
      simp

theorem linesFrom_ended {cs : List Char} (h : Unbroken cs) (current rest : List Char) :
    linesFrom current (cs ++ '\n' :: rest) = (current.reverse ++ cs) :: linesFrom [] rest := by
  induction cs generalizing current with
  | nil => simp [linesFrom]
  | cons c cs ih =>
      obtain ⟨hc, hcs⟩ := List.forall_mem_cons.mp h
      rw [List.cons_append, linesFrom_cons hc, ih hcs, List.reverse_cons, List.append_assoc]
      rfl

theorem linesFrom_unended {cs : List Char} (h : Unbroken cs) (current : List Char)
    (hne : current ≠ [] ∨ cs ≠ []) : linesFrom current cs = [current.reverse ++ cs] := by
  induction cs generalizing current with
  | nil =>
      have hcurrent : current ≠ [] := hne.resolve_right (fun h => h rfl)
      simp [linesFrom, hcurrent]
  | cons c cs ih =>
      obtain ⟨hc, hcs⟩ := List.forall_mem_cons.mp h
      rw [linesFrom_cons hc, ih hcs (c :: current) (.inl (List.cons_ne_nil c current)),
        List.reverse_cons, List.append_assoc]
      rfl

theorem dropWhile_suffix_reverse {p : Char → Bool} (cs : List Char) :
    (cs.reverse.dropWhile p).reverse <+: cs := by
  rw [← List.reverse_suffix, List.reverse_reverse]
  exact List.dropWhile_suffix p

theorem stripChars_prefix {c : Char} (hc : isBlank c = false) (cs : List Char) :
    stripChars (c :: cs) <+: c :: cs ∧ stripChars (c :: cs) ≠ [] := by
  have hstart : (c :: cs).dropWhile isBlank = c :: cs :=
    List.dropWhile_cons_of_neg (by simp [hc])
  rw [stripChars, hstart]
  refine ⟨dropWhile_suffix_reverse _, ?_⟩
  rw [ne_eq, List.reverse_eq_nil_iff]
  intro hnil
  have hall : (c :: cs).reverse.takeWhile isBlank = (c :: cs).reverse := by
    rw [← List.append_nil (List.takeWhile _ _), ← hnil, List.takeWhile_append_dropWhile]
  have hblank : isBlank c = true :=
    List.all_eq_true.mp List.all_takeWhile c (by rw [hall]; simp)
  exact absurd (hblank.symm.trans hc) nofun

theorem stripChars_eq_self {c d : Char} (hc : isBlank c = false) (hd : isBlank d = false)
    (inner : List Char) : stripChars (c :: (inner ++ [d])) = c :: (inner ++ [d]) := by
  have hstart : (c :: (inner ++ [d])).dropWhile isBlank = c :: (inner ++ [d]) :=
    List.dropWhile_cons_of_neg (by simp [hc])
  have hend : (c :: (inner ++ [d])).reverse = d :: (c :: inner).reverse := by simp
  rw [stripChars, hstart, hend, List.dropWhile_cons_of_neg (by simp [hd]), ← hend,
    List.reverse_reverse]

/-- White space, and nothing else. -/
def Blanks (cs : List Char) : Prop :=
  ∀ c ∈ cs, isBlank c = true

instance : DecidablePred Blanks :=
  fun cs => List.decidableBAll (fun c => isBlank c = true) cs

/-- Text with no white space at its ends. -/
structure Bare (cs : List Char) : Prop where
  first : ∀ c, cs.head? = some c → isBlank c = false
  last : ∀ c, cs.getLast? = some c → isBlank c = false

instance : DecidablePred Bare := fun cs =>
  decidable_of_iff (cs.head?.all (fun c => !isBlank c) ∧ cs.getLast?.all fun c => !isBlank c)
    ⟨fun ⟨hfirst, hlast⟩ => ⟨by simpa [Option.all_eq_true] using hfirst,
      by simpa [Option.all_eq_true] using hlast⟩, fun h =>
        ⟨by simpa [Option.all_eq_true] using h.first, by simpa [Option.all_eq_true] using h.last⟩⟩

theorem dropWhile_blanks {cs : List Char} (h : Blanks cs) : cs.dropWhile isBlank = [] := by
  have hall : (cs ++ []).dropWhile isBlank = [].dropWhile isBlank := List.dropWhile_append_of_pos h
  rwa [List.append_nil] at hall

theorem stripChars_blanks {cs : List Char} (h : Blanks cs) : stripChars cs = [] := by
  rw [stripChars, dropWhile_blanks h]
  rfl

theorem stripChars_blanks_append {blanks : List Char} (h : Blanks blanks) (cs : List Char) :
    stripChars (blanks ++ cs) = stripChars cs := by
  rw [stripChars, List.dropWhile_append_of_pos h, stripChars]

theorem stripChars_append_blanks {blanks : List Char} (h : Blanks blanks) (cs : List Char) :
    stripChars (cs ++ blanks) = stripChars cs := by
  have hreverse : ∀ c ∈ blanks.reverse, isBlank c = true := fun c hc => h c (by simpa using hc)
  rw [stripChars, stripChars, List.dropWhile_append]
  split
  · rename_i hnone
    rw [dropWhile_blanks h, List.isEmpty_iff.mp hnone]
  · rw [List.reverse_append, List.dropWhile_append_of_pos hreverse]

theorem stripChars_bare {cs : List Char} (h : Bare cs) : stripChars cs = cs := by
  cases cs with
  | nil => rfl
  | cons c cs =>
      have hc := h.first c rfl
      cases hend : cs.getLast? with
      | none =>
          rw [List.getLast?_eq_none_iff.mp hend]
          simp [stripChars, hc]
      | some d =>
          obtain ⟨inner, rfl⟩ := List.getLast?_eq_some_iff.mp hend
          exact stripChars_eq_self hc (h.last d (List.getLast?_concat (l := c :: inner))) inner

theorem exists_visible (cs : List Char) : ∃ visible blanks, cs = visible ++ blanks ∧
    Blanks blanks ∧ ∀ c, visible.getLast? = some c → isBlank c = false := by
  refine ⟨(cs.reverse.dropWhile isBlank).reverse, (cs.reverse.takeWhile isBlank).reverse, ?_, ?_,
    fun c hc => ?_⟩
  · rw [← List.reverse_append, List.takeWhile_append_dropWhile, List.reverse_reverse]
  · intro c hc
    exact List.all_eq_true.mp List.all_takeWhile c (by simpa using hc)
  · have hfirst := List.head?_dropWhile_not isBlank cs.reverse
    rw [List.getLast?_reverse] at hc
    rw [hc] at hfirst
    simpa using hfirst

/-- What is left of white space behind a visible character is not looked at twice. -/
theorem stripChars_around {c d : Char} (hc : isBlank c = false) (hd : isBlank d = false)
    (inner rest : List Char) : ∃ left, stripChars left = stripChars rest ∧
      stripChars (c :: (inner ++ d :: rest)) = c :: (inner ++ d :: left) := by
  obtain ⟨left, blanks, rfl, hblanks, hlast⟩ := exists_visible rest
  refine ⟨left, (stripChars_append_blanks hblanks left).symm, ?_⟩
  have hsplit : c :: (inner ++ d :: (left ++ blanks)) = c :: (inner ++ d :: left) ++ blanks := by
    simp
  rw [hsplit, stripChars_append_blanks hblanks]
  refine stripChars_bare ⟨fun x hx => ?_, fun x hx => ?_⟩
  · obtain rfl : c = x := Option.some.inj hx
    exact hc
  · have hend : (c :: (inner ++ d :: left)).getLast? = some (left.getLast?.getD d) := by
      rw [← List.cons_append, List.getLast?_append, List.getLast?_cons]
      rfl
    obtain rfl := Option.some.inj (hend.symm.trans hx)
    cases hleft : left.getLast? with
    | none => exact hd
    | some y => exact hlast y hleft

end RawSeries.Text
