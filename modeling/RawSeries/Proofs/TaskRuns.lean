import RawSeries.Store.Table

namespace RawSeries

theorem bind_eq_ok_iff {ε α β : Type} {x : Except ε α} {next : α → Except ε β} {b : β} :
    (x >>= next) = .ok b ↔ ∃ a, x = .ok a ∧ next a = .ok b := by
  cases x <;> simp [bind, Except.bind]

theorem bind_eq_error_iff {ε α β : Type} {x : Except ε α} {next : α → Except ε β} {f : ε} :
    (x >>= next) = .error f ↔ x = .error f ∨ ∃ a, x = .ok a ∧ next a = .error f := by
  cases x <;> simp [bind, Except.bind]

variable {σ α β : Type}

/-- Each of some things is turned into one of others, and each turn may change a state. -/
inductive Threads (R : σ → α → β → σ → Prop) : σ → List α → List β → σ → Prop
  | nil {s : σ} : Threads R s [] [] s
  | cons {s s₁ s₂ : σ} {a : α} {b : β} {as : List α} {bs : List β} (head : R s a b s₁)
      (tail : Threads R s₁ as bs s₂) : Threads R s (a :: as) (b :: bs) s₂

theorem Threads.forall_mem {R : σ → α → β → σ → Prop} {p : β → Prop} {s s' : σ} {as : List α}
    {bs : List β} (h : Threads R s as bs s') (hR : ∀ s a b s', R s a b s' → p b) :
    ∀ b ∈ bs, p b := by
  induction h with
  | nil => nofun
  | cons head tail ih => exact List.forall_mem_cons.mpr ⟨hR _ _ _ _ head, ih⟩

namespace Task

variable {work : Task σ α} {next : α → Task σ β} {s s' : σ} {f : Fault}

theorem bind_of_ok {a : α} (h : work.run.run s = (.ok a, s')) (next : α → Task σ β) :
    (work >>= next).run.run s = (next a).run.run s' := by
  have hrun : work.run.run s = pure (.ok a, s') := h
  simp only [ExceptT.run_bind, StateT.run_bind, hrun, pure_bind]

theorem bind_of_error (h : work.run.run s = (.error f, s')) (next : α → Task σ β) :
    (work >>= next).run.run s = (.error f, s') := by
  have hrun : work.run.run s = pure (.error f, s') := h
  simp only [ExceptT.run_bind, StateT.run_bind, hrun, pure_bind]
  rfl

theorem get_bind_run (next : σ → Task σ α) (s : σ) :
    (get >>= next : Task σ α).run.run s = (next s).run.run s := rfl

theorem lift_bind_run (work : StateM σ α) (next : α → Task σ β) (s : σ) :
    ((liftM work : Task σ α) >>= next).run.run s =
      (next (work.run s).1).run.run (work.run s).2 := rfl

theorem outcome_run {r : Except Fault α} (h : work.run.run s = (r, s')) :
    (outcome work).run.run s = (.ok r, s') := by
  have hrun : StateT.run (Except.ok <$> work : Task σ (Except Fault α)) s =
      pure (r.map Except.ok, s') := by
    rw [map_eq_pure_bind]
    cases r with
    | ok a => exact bind_of_ok h _
    | error f => exact bind_of_error h _
  simp only [outcome, tryCatch, tryCatchThe, MonadExceptOf.tryCatch, ExceptT.tryCatch,
    ExceptT.run_mk, StateT.run_bind, hrun, pure_bind]
  cases r <;> rfl

theorem bind_eq_ok_iff {b : β} :
    (work >>= next).run.run s = (.ok b, s') ↔
      ∃ a s₁, work.run.run s = (.ok a, s₁) ∧ (next a).run.run s₁ = (.ok b, s') := by
  constructor
  · intro h
    rcases hwork : work.run.run s with ⟨f | a, s₁⟩
    · rw [bind_of_error hwork] at h
      cases h
    · rw [bind_of_ok hwork] at h
      exact ⟨a, s₁, rfl, h⟩
  · rintro ⟨a, s₁, hwork, hnext⟩
    rw [bind_of_ok hwork, hnext]

theorem bind_eq_error_iff :
    (work >>= next).run.run s = (.error f, s') ↔ work.run.run s = (.error f, s') ∨
      ∃ a s₁, work.run.run s = (.ok a, s₁) ∧ (next a).run.run s₁ = (.error f, s') := by
  constructor
  · intro h
    rcases hwork : work.run.run s with ⟨g | a, s₁⟩
    · rw [bind_of_error hwork] at h
      cases h
      exact .inl rfl
    · rw [bind_of_ok hwork] at h
      exact .inr ⟨a, s₁, rfl, h⟩
  · rintro (hwork | ⟨a, s₁, hwork, hnext⟩)
    · exact bind_of_error hwork next
    · rw [bind_of_ok hwork, hnext]

theorem pure_eq_ok_iff {a b : α} :
    (pure a : Task σ α).run.run s = (.ok b, s') ↔ b = a ∧ s' = s := by
  constructor
  · rintro ⟨⟩
    exact ⟨rfl, rfl⟩
  · rintro ⟨rfl, rfl⟩
    rfl

theorem mapM_eq_ok_iff {as : List α} {bs : List β} :
    (as.mapM next).run.run s = (.ok bs, s') ↔
      Threads (fun s a b s' => (next a).run.run s = (.ok b, s')) s as bs s' := by
  induction as generalizing s bs with
  | nil =>
      rw [List.mapM_nil, pure_eq_ok_iff]
      constructor
      · rintro ⟨rfl, rfl⟩
        exact .nil
      · rintro ⟨⟩
        exact ⟨rfl, rfl⟩
  | cons a as ih =>
      simp only [List.mapM_cons, bind_eq_ok_iff, pure_eq_ok_iff]
      constructor
      · rintro ⟨b, s₁, hhead, more, s₂, htail, rfl, rfl⟩
        exact .cons hhead (ih.mp htail)
      · rintro ⟨⟩
        rename_i hhead htail
        exact ⟨_, _, hhead, _, _, ih.mpr htail, rfl, rfl⟩

theorem exists_error_of_mapM {as : List α} (h : (as.mapM next).run.run s = (.error f, s')) :
    ∃ a s₁, (next a).run.run s₁ = (.error f, s') := by
  induction as generalizing s with
  | nil => cases h
  | cons a as ih =>
      rw [List.mapM_cons, bind_eq_error_iff] at h
      rcases h with hhead | ⟨b, s₁, -, h⟩
      · exact ⟨a, s, hhead⟩
      · rcases bind_eq_error_iff.mp h with htail | ⟨bs, s₂, -, hpure⟩
        · exact ih htail
        · cases hpure

end Task

end RawSeries
