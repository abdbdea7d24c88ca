/-!
Steps that can fail: a sequence of them succeeds only if each one does, and a loop fails for the first
item for which one of its turns does.
-/

namespace PropForge

theorem exists_of_bind_eq_ok {ε α β : Type} {x : Except ε α} {f : α → Except ε β} {b : β}
    (h : x >>= f = .ok b) : ∃ a, x = .ok a ∧ f a = .ok b := by
  cases x with
  | error e => cases h
  | ok a => exact ⟨a, rfl, h⟩

theorem error_of_bind_eq_error {ε α β : Type} {x : Except ε α} {f : α → Except ε β} {e : ε}
    (h : x >>= f = .error e) : x = .error e ∨ ∃ a, x = .ok a ∧ f a = .error e := by
  cases x with
  | error e' => exact .inl (congrArg _ (Except.error.inj h))
  | ok a => exact .inr ⟨a, rfl, h⟩

/-- A step that succeeds, seen by a part of what it gives. -/
theorem exists_of_map_eq_ok {ε α β : Type} {x : Except ε α} {part : α → β} {b : β}
    (h : x.map part = .ok b) : ∃ a, x = .ok a ∧ part a = b := by
  cases x with
  | error e => cases h
  | ok a => exact ⟨a, rfl, Except.ok.inj h⟩

theorem ok_of_toOption {ε α : Type} {r : Except ε α} {a : α} (h : r.toOption = some a) :
    r = .ok a := by
  cases r with
  | error e => cases h
  | ok b => exact congrArg _ (Option.some.inj h)

/-- **A loop** whose turns fail for some items, whatever the turns before have made, fails for the first
of these. -/
theorem foldlM_eq_error_iff {ε α β : Type} {step : β → α → Except ε β} (Fine : α → Prop)
    (fault : α → ε) (fine : ∀ b x, Fine x → ∃ b', step b x = .ok b')
    (fails : ∀ b x, ¬ Fine x → step b x = .error (fault x)) {items : List α} {b : β} {e : ε} :
    items.foldlM step b = .error e ↔
      ∃ before x after, items = before ++ x :: after ∧ (∀ y ∈ before, Fine y) ∧ ¬ Fine x ∧
        e = fault x := by
  induction items generalizing b with
  | nil =>
    constructor
    · intro h
      cases h
    · rintro ⟨before, x, after, same, -⟩
      cases before <;> cases same
  | cons first rest ih =>
    rw [List.foldlM_cons]
    by_cases good : Fine first
    · obtain ⟨b', ok⟩ := fine b first good
      rw [ok]
      change rest.foldlM step b' = _ ↔ _
      rw [ih]
      constructor
      · rintro ⟨before, x, after, rfl, all, here⟩
        exact ⟨first :: before, x, after, rfl, List.forall_mem_cons.mpr ⟨good, all⟩, here⟩
      · rintro ⟨before, x, after, same, all, bad, here⟩
        cases before with
        | nil =>
          cases same
          exact absurd good bad
        | cons y before =>
          cases same
          exact ⟨before, x, after, rfl, (List.forall_mem_cons.mp all).2, bad, here⟩
    · rw [fails b first good]
      constructor
      · intro h
        cases h
        exact ⟨[], first, rest, rfl, nofun, good, rfl⟩
      · rintro ⟨before, x, after, same, all, -, rfl⟩
        cases before with
        | nil =>
          cases same
          rfl
        | cons y before =>
          cases same
          exact absurd (all _ List.mem_cons_self) good

end PropForge
