import RawSeries.Text.Blank

namespace RawSeries.Text

variable {x : Char} {cs head tail : List Char} {parts : List (List Char)}

theorem cutAt?_append (h : x ∉ head) (tail : List Char) :
    cutAt? x (head ++ x :: tail) = some (head, tail) := by
  induction head with
  | nil => simp [cutAt?]
  | cons c head ih =>
      obtain ⟨hc, hhead⟩ : x ≠ c ∧ x ∉ head := by simpa using h
      rw [List.cons_append, cutAt?, if_neg (Ne.symm hc), ih hhead]
      rfl

theorem cutAt?_eq_some_iff :
    cutAt? x cs = some (head, tail) ↔ cs = head ++ x :: tail ∧ x ∉ head := by
  constructor
  · intro h
    induction cs generalizing head with
    | nil => cases h
    | cons c cs ih =>
        rw [cutAt?] at h
        split at h
        · rename_i hc
          cases h
          exact ⟨by rw [hc]; rfl, by simp⟩
        · rename_i hc
          obtain ⟨⟨more, rest⟩, hcut, hparts⟩ := Option.map_eq_some_iff.mp h
          cases hparts
          obtain ⟨rfl, hmore⟩ := ih hcut
          exact ⟨rfl, by simp [Ne.symm hc, hmore]⟩
  · rintro ⟨rfl, hhead⟩
    exact cutAt?_append hhead tail

theorem append_cons_inj {head' tail' : List Char} (h : x ∉ head) (h' : x ∉ head') :
    head ++ x :: tail = head' ++ x :: tail' ↔ head = head' ∧ tail = tail' := by
  constructor
  · intro heq
    have hcut := congrArg (cutAt? x) heq
    rw [cutAt?_append h, cutAt?_append h'] at hcut
    exact Prod.mk.inj (Option.some.inj hcut)
  · rintro ⟨rfl, rfl⟩
    rfl

theorem splitOn_of_not_mem (h : x ∉ cs) : splitOn x cs = [cs] := by
  induction cs with
  | nil => rfl
  | cons c cs ih =>
      obtain ⟨hc, hcs⟩ : x ≠ c ∧ x ∉ cs := by simpa using h
      rw [splitOn, if_neg (Ne.symm hc), ih hcs]

theorem splitOn_append (h : x ∉ head) (tail : List Char) :
    splitOn x (head ++ x :: tail) = head :: splitOn x tail := by
  induction head with
  | nil => simp [splitOn]
  | cons c head ih =>
      obtain ⟨hc, hhead⟩ : x ≠ c ∧ x ∉ head := by simpa using h
      rw [List.cons_append, splitOn, if_neg (Ne.symm hc), ih hhead]

theorem splitOn_ne_nil (x : Char) (cs : List Char) : splitOn x cs ≠ [] := by
  cases cs with
  | nil => simp [splitOn]
  | cons c cs =>
      rw [splitOn]
      split
      · simp
      · split <;> simp

theorem splitOn_parts (x : Char) (cs : List Char) :
    [x].intercalate (splitOn x cs) = cs ∧ ∀ part ∈ splitOn x cs, x ∉ part := by
  induction hlength : cs.length using Nat.strongRecOn generalizing cs with
  | ind n ih =>
      by_cases hx : x ∈ cs
      · obtain ⟨head, tail, rfl, hhead⟩ := List.eq_append_cons_of_mem hx
        obtain ⟨hjoin, hparts⟩ := ih tail.length (by simp [← hlength]; omega) tail rfl
        rw [splitOn_append hhead]
        constructor
        · obtain ⟨part, parts, hsplit⟩ := List.exists_cons_of_ne_nil (splitOn_ne_nil x tail)
          rw [hsplit] at hjoin ⊢
          rw [List.intercalate_cons_cons, hjoin]
          simp
        · simpa using ⟨hhead, hparts⟩
      · rw [splitOn_of_not_mem hx]
        simpa using hx

theorem splitOn_eq_iff :
    splitOn x cs = parts ↔
      cs = [x].intercalate parts ∧ parts ≠ [] ∧ ∀ part ∈ parts, x ∉ part := by
  constructor
  · rintro rfl
    obtain ⟨hjoin, hparts⟩ := splitOn_parts x cs
    exact ⟨hjoin.symm, splitOn_ne_nil x cs, hparts⟩
  · rintro ⟨rfl, hne, hparts⟩
    induction parts with
    | nil => exact absurd rfl hne
    | cons part parts ih =>
        obtain ⟨hpart, hmore⟩ := List.forall_mem_cons.mp hparts
        cases parts with
        | nil => rw [List.intercalate_singleton, splitOn_of_not_mem hpart]
        | cons next parts =>
            rw [List.intercalate_cons_cons, List.append_assoc, List.singleton_append,
              splitOn_append hpart, ih (by simp) hmore]

theorem intercalate_append (sep : List Char) (h : parts ≠ []) :
    sep.intercalate parts ++ sep = parts.flatMap (· ++ sep) := by
  induction parts with
  | nil => exact absurd rfl h
  | cons part parts ih =>
      cases parts with
      | nil => simp
      | cons next parts =>
          rw [List.intercalate_cons_cons, List.append_assoc, ih (List.cons_ne_nil next parts)]
          rfl

theorem forall_mem_intercalate {p : Char → Prop} {sep : List Char} (hsep : ∀ c ∈ sep, p c)
    (hparts : ∀ part ∈ parts, ∀ c ∈ part, p c) : ∀ c ∈ sep.intercalate parts, p c := by
  cases parts with
  | nil => nofun
  | cons part parts =>
      intro c hc
      have hmem := List.mem_append_left sep hc
      rw [intercalate_append sep (List.cons_ne_nil part parts)] at hmem
      obtain ⟨part, hpart, hc⟩ := List.mem_flatMap.mp hmem
      exact List.forall_mem_append.mpr ⟨hparts part hpart, hsep⟩ c hc

theorem intercalate_ne_nil {part : List Char} (h : part ≠ []) (sep : List Char)
    (parts : List (List Char)) : sep.intercalate (part :: parts) ≠ [] := by
  cases parts with
  | nil => rwa [List.intercalate_singleton]
  | cons next parts => simp [List.intercalate_cons_cons, h]

theorem flatMap_ended_inj {sep : List Char} {more : List (List Char)}
    (hparts : ∀ part ∈ parts, x ∉ part) (hmore : ∀ part ∈ more, x ∉ part)
    (h : parts.flatMap (· ++ x :: sep) = more.flatMap (· ++ x :: sep)) : parts = more := by
  induction parts generalizing more with
  | nil =>
      cases more with
      | nil => rfl
      | cons other more => simp at h
  | cons part parts ih =>
      cases more with
      | nil => simp at h
      | cons other more =>
          obtain ⟨hpart, hparts⟩ := List.forall_mem_cons.mp hparts
          obtain ⟨hother, hmore⟩ := List.forall_mem_cons.mp hmore
          rw [List.flatMap_cons, List.flatMap_cons, List.append_assoc, List.append_assoc,
            List.cons_append, List.cons_append, append_cons_inj hpart hother] at h
          rw [h.1, ih hparts hmore (List.append_cancel_left h.2)]

/-- Parts without the first sign of the separator are read off the text in one way. That no part
is empty tells one part from none. -/
theorem intercalate_inj {sep : List Char} {more : List (List Char)}
    (hparts : ∀ part ∈ parts, part ≠ [] ∧ x ∉ part) (hmore : ∀ part ∈ more, part ≠ [] ∧ x ∉ part)
    (h : (x :: sep).intercalate parts = (x :: sep).intercalate more) : parts = more := by
  cases parts with
  | nil =>
      cases more with
      | nil => rfl
      | cons other more =>
          obtain ⟨⟨hother, -⟩, -⟩ := List.forall_mem_cons.mp hmore
          exact absurd h.symm (intercalate_ne_nil hother _ more)
  | cons part parts =>
      cases more with
      | nil =>
          obtain ⟨⟨hpart, -⟩, -⟩ := List.forall_mem_cons.mp hparts
          exact absurd h (intercalate_ne_nil hpart _ parts)
      | cons other more =>
          -- with one more separator at the end, no part is the last one
          apply flatMap_ended_inj (fun p hp => (hparts p hp).2) fun p hp => (hmore p hp).2
          rw [← intercalate_append _ (List.cons_ne_nil part parts),
            ← intercalate_append _ (List.cons_ne_nil other more), h]

end RawSeries.Text
