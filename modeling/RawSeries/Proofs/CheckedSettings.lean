import RawSeries.Settings.Basic

namespace RawSeries.Settings

def value (s : Settings) : Field → Json
  | .restUrl => .text s.restUrl
  | .dataTable => .text s.dataTable
  | .uidTable => .text s.uidTable
  | .family => .text s.family
  | .metricWidth => .whole s.metricWidth
  | .tagKeyWidth => .whole s.tagKeyWidth
  | .tagValueWidth => .whole s.tagValueWidth
  | .scanBatch => .whole s.scanBatch
  | .timeout => .whole s.timeout
  | .maxConnections => .whole s.maxConnections
  | .level => .text s.level.word

/-- What a field takes a value for, or why it refuses it. -/
def taken (f : Field) (j : Json) : Except Flaw Json :=
  (standard.set f j).map fun s => s.value f

/-- The flaw of a field, if it is given a value that it refuses. -/
def refusal? (given : Field → Option Json) (f : Field) : Option (String × Flaw) :=
  match (given f).map (taken f) with
  | some (.error flaw) => some (f.name, flaw)
  | _ => none

/-- All flaws of what is given: those of the fields in their order, then one for each other name. -/
def refusals (given : Field → Option Json) (others : List String) : List (String × Flaw) :=
  Field.all.filterMap (refusal? given) ++ others.map fun n => (n, .extra)

/-- A field has what the given value is taken for, or its standard value when none is given. -/
def Takes (s : Settings) (f : Field) : Option Json → Prop
  | some j => taken f j = .ok (s.value f)
  | none => s.value f = standard.value f

theorem eq_of_value {s t : Settings} (h : ∀ f, s.value f = t.value f) : s = t := by
  obtain ⟨url, data, uid, family, metric, key, tag, batch, timeout, connections, level⟩ := s
  obtain ⟨url', data', uid', family', metric', key', tag', batch', timeout', connections', level'⟩ :=
    t
  have hlevel : level.word = level'.word := by simpa [value] using h .level
  have hword : level = level' := by
    revert hlevel
    cases level <;> cases level' <;> decide
  have htexts := And.intro (h .restUrl) (And.intro (h .dataTable) (And.intro (h .uidTable)
    (h .family)))
  have hnumbers := And.intro (h .metricWidth) (And.intro (h .tagKeyWidth)
    (And.intro (h .tagValueWidth) (And.intro (h .scanBatch) (And.intro (h .timeout)
      (h .maxConnections)))))
  simp only [value, Json.text.injEq, WideText.plain.injEq, Json.whole.injEq, Int.natCast_inj]
    at htexts hnumbers
  simp [hword, htexts, hnumbers]

theorem set_taken (s : Settings) (f : Field) (j : Json) :
    (s.set f j).map (fun s' => s'.value f) = taken f j := by
  have hsame {α : Type} {r : Except Flaw α} {update update' : α → Settings}
      (hvalue : ∀ x, (update x).value f = (update' x).value f) :
      (r.map update).map (fun s' => s'.value f) = (r.map update').map fun s' => s'.value f := by
    cases r with
    | error flaw => rfl
    | ok x => exact congrArg Except.ok (hvalue x)
  cases f <;> exact hsame fun _ => rfl

theorem set_others {s s' : Settings} {f g : Field} {j : Json} (h : s.set f j = .ok s')
    (hother : g ≠ f) : s'.value g = s.value g := by
  have hupdate {α : Type} {r : Except Flaw α} {update : α → Settings}
      (hkept : ∀ x, (update x).value g = s.value g) (hset : r.map update = .ok s') :
      s'.value g = s.value g := by
    cases r with
    | error flaw => cases hset
    | ok x =>
        cases hset
        exact hkept x
  cases f <;> exact hupdate (fun x => by cases g <;> first | rfl | exact absurd rfl hother) h

theorem taken_of_set {s s' : Settings} {f : Field} {j : Json} (h : s.set f j = .ok s') :
    taken f j = .ok (s'.value f) := by
  rw [← set_taken s, h]
  rfl

theorem taken_of_refused {s : Settings} {f : Field} {j : Json} {flaw : Flaw}
    (h : s.set f j = .error flaw) : taken f j = .error flaw := by
  rw [← set_taken s, h]
  rfl

/-- The value of a field when it is filled in. -/
def filled (given : Field → Option Json) (s : Settings) (f : Field) : Json :=
  match (given f).map (taken f) with
  | some (.ok v) => v
  | _ => s.value f

theorem fill_flaws (given : Field → Option Json) (fs : List Field) (s : Settings) :
    (fill given fs s).2 = fs.filterMap (refusal? given) := by
  induction fs generalizing s with
  | nil => rfl
  | cons f fs ih =>
      rw [fill, List.filterMap_cons]
      cases hgiven : given f with
      | none => simp [refusal?, hgiven, ih]
      | some j =>
          cases hset : s.set f j with
          | ok s' => simp [refusal?, hgiven, hset, taken_of_set hset, ih]
          | error flaw => simp [refusal?, hgiven, hset, taken_of_refused hset, ih]

theorem fill_value (given : Field → Option Json) {fs : List Field} (hfs : fs.Nodup) (s : Settings)
    (f : Field) :
    (fill given fs s).1.value f = if f ∈ fs then filled given s f else s.value f := by
  induction fs generalizing s with
  | nil => rfl
  | cons g fs ih =>
      obtain ⟨hg, hlater⟩ := List.nodup_cons.mp hfs
      rw [fill]
      by_cases hself : f = g
      · -- The field is filled in here, and not again.
        subst hself
        rw [if_pos List.mem_cons_self, filled]
        cases hgiven : given f with
        | none => simp [ih hlater, hg]
        | some j =>
            cases hset : s.set f j with
            | ok s' => simp [ih hlater, hg, hset, taken_of_set hset]
            | error flaw => simp [ih hlater, hg, hset, taken_of_refused hset]
      · have hmem : f ∈ g :: fs ↔ f ∈ fs := by simp [hself]
        simp only [hmem]
        cases hgiven : given g with
        | none => exact ih hlater s
        | some j =>
            cases hset : s.set g j with
            | ok s' =>
                have hkept : s'.value f = s.value f := set_others hset hself
                simp only [hset, ih hlater, filled, hkept]
            | error flaw =>
                simp only [hset]
                exact ih hlater s

theorem refusals_eq_nil_iff {given : Field → Option Json} {others : List String} :
    refusals given others = [] ↔
      others = [] ∧ ∀ f, ∀ j, given f = some j → ∃ v, taken f j = .ok v := by
  have hall : ∀ f, f ∈ Field.all := fun f => by cases f <;> decide
  rw [refusals, List.append_eq_nil_iff, List.map_eq_nil_iff, and_comm,
    List.filterMap_eq_nil_iff]
  refine and_congr_right fun _ => ⟨fun h f j hgiven => ?_, fun h f _ => ?_⟩
  · have hnone := h f (hall f)
    cases htaken : taken f j with
    | ok v => exact ⟨v, rfl⟩
    | error flaw => simp [refusal?, hgiven, htaken] at hnone
  · cases hgiven : given f with
    | none => simp [refusal?, hgiven]
    | some j =>
        obtain ⟨v, htaken⟩ := h f j hgiven
        simp [refusal?, hgiven, htaken]

theorem validate_eq (given : Field → Option Json) (others : List String) :
    validate given others =
      if refusals given others = [] then .ok (fill given Field.all standard).1
      else .error (refusals given others) := by
  have hflaws := fill_flaws given Field.all standard
  rw [validate, refusals, ← hflaws]
  dsimp only
  split
  · rename_i hnone
    rw [if_pos hnone]
  · rename_i hsome
    rw [if_neg hsome]

/-- Settings are accepted when every name is that of a field and every field takes its value. -/
theorem validate_eq_ok_iff {given : Field → Option Json} {others : List String} {s : Settings} :
    validate given others = .ok s ↔ others = [] ∧ ∀ f, s.Takes f (given f) := by
  have hvalue (f : Field) :
      (fill given Field.all standard).1.value f = filled given standard f := by
    have hall : f ∈ Field.all := by cases f <;> decide
    rw [fill_value given (by decide), if_pos hall]
  rw [validate_eq]
  constructor
  · intro h
    split at h
    case isFalse => cases h
    case isTrue hnone =>
        cases h
        obtain ⟨hothers, htaken⟩ := refusals_eq_nil_iff.mp hnone
        refine ⟨hothers, ?_⟩
        intro f
        rw [Takes.eq_def]
        cases hgiven : given f with
        | none => simp [hvalue, filled, hgiven]
        | some j =>
            obtain ⟨v, hv⟩ := htaken f j hgiven
            simp [hvalue, filled, hgiven, hv]
  · rintro ⟨hothers, htakes⟩
    have hnone : refusals given others = [] := by
      refine refusals_eq_nil_iff.mpr ⟨hothers, ?_⟩
      intro f j hgiven
      have hself := htakes f
      rw [hgiven] at hself
      exact ⟨_, hself⟩
    rw [if_pos hnone]
    refine congrArg _ (eq_of_value ?_)
    intro f
    have hself := htakes f
    rw [hvalue, filled]
    cases hgiven : given f with
    | none =>
        rw [hgiven] at hself
        exact hself.symm
    | some j =>
        rw [hgiven] at hself
        have hself : taken f j = .ok (s.value f) := hself
        simp [hself]

theorem validate_eq_error_iff {given : Field → Option Json} {others : List String}
    {flaws : List (String × Flaw)} :
    validate given others = .error flaws ↔ flaws ≠ [] ∧ flaws = refusals given others := by
  rw [validate_eq]
  split
  · rename_i hnone
    simp [hnone]
  · rename_i hsome
    constructor
    · intro h
      cases h
      exact ⟨hsome, rfl⟩
    · rintro ⟨-, rfl⟩
      rfl

end RawSeries.Settings
