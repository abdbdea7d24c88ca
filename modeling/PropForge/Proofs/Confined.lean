import PropForge.Proofs.Session

/-!
# Commands that may fail

A command that fails leaves what it did before. `Confined` says of a run, whether or not it
succeeds, that it touches no files but some:

* `run_bind_cases`, `run_bind_error_iff`, `run_attempt`: where a sequence ends, and what attempting
  gives;
* `foldlM_error_iff`: where a loop ends that does not come to its end;
* `Confined.bind`: a sequence is confined if each of its commands is;
* `confined_log`, `confined_write`, `confined_makeDirectories`: what commands touch.
-/

namespace PropForge

variable {α β : Type} {a : Action α} {s s' : Session}

/-- A sequence ends where its first command fails, or it goes on from where that one ended. -/
theorem run_bind_cases (a : Action α) (f : α → Action β) (s : Session) :
    (∃ e, (a >>= f).run.run s = (.error e, (a.run.run s).2)) ∨
      ∃ x s', Gives a s x s' ∧ (a >>= f).run.run s = (f x).run.run s' := by
  rw [run_bind]
  unfold Gives
  generalize a.run.run s = r
  obtain ⟨e | x, between⟩ := r
  · exact .inl ⟨e, rfl⟩
  · exact .inr ⟨x, between, rfl, rfl⟩

/-- **A sequence fails** as one of its commands does at its turn. -/
theorem run_bind_error_iff {f : α → Action β} {e : Failure} :
    (a >>= f).run.run s = (.error e, s') ↔ a.run.run s = (.error e, s') ∨
      ∃ x between, Gives a s x between ∧ (f x).run.run between = (.error e, s') := by
  rw [run_bind]
  unfold Gives
  generalize a.run.run s = r
  obtain ⟨e' | x, between⟩ := r
  · constructor
    · intro h
      cases h
      exact .inl rfl
    · rintro (h | ⟨x, between, given, -⟩)
      · cases h
        rfl
      · cases given
  · constructor
    · exact fun h => .inr ⟨x, between, rfl, h⟩
    · rintro (h | ⟨x', between', given, h⟩)
      · cases h
      · cases given
        exact h

/-- What is attempted ends as it would end otherwise, and how it ended is the result. -/
theorem run_attempt (a : Action α) (s : Session) :
    (Action.attempt a).run.run s = (.ok (a.run.run s).1, (a.run.run s).2) := by
  let kept : Action (Except Failure α) := do return .ok (← a)
  have run : kept.run.run s = _ := run_bind
  change (ExceptT.tryCatch kept fun f => pure (Except.error f)).run.run s = _
  unfold ExceptT.tryCatch
  rw [ExceptT.run_mk, StateT.run_bind, show StateT.run kept s = _ from run]
  generalize a.run.run s = r
  obtain ⟨e | x, between⟩ := r <;> rfl

theorem gives_attempt_iff {r : Except Failure α} :
    Gives (Action.attempt a) s r s' ↔ a.run.run s = (r, s') := by
  rw [Gives, run_attempt]
  constructor
  · intro h
    cases h
    rfl
  · intro h
    rw [h]

/-- **A loop** fails as one of its steps does at its turn, which comes after those in front of it. -/
theorem foldlM_error_iff {step : β → α → Action β} {items : List α} {o : β} {f : Failure} :
    (items.foldlM step o).run.run s = (.error f, s') ↔
      ∃ before x after o' between, items = before ++ x :: after ∧
        Gives (before.foldlM step o) s o' between ∧
        (step o' x).run.run between = (.error f, s') := by
  induction items generalizing o s with
  | nil =>
    constructor
    · intro h
      cases h
    · rintro ⟨before, x, after, -, -, split, -⟩
      cases before <;> cases split
  | cons first rest ih =>
    rw [List.foldlM_cons, run_bind]
    cases ended : (step o first).run.run s with
    | mk r middle =>
      cases r with
      | error e =>
        constructor
        · intro h
          cases h
          exact ⟨[], first, rest, o, s, rfl, gives_pure_iff.mpr ⟨rfl, rfl⟩, ended⟩
        · rintro ⟨before, x, after, o', between, split, given, failed⟩
          cases before with
          | nil =>
            cases split
            obtain ⟨rfl, rfl⟩ := gives_pure_iff.mp given
            exact ended.symm.trans failed
          | cons y before =>
            cases split
            obtain ⟨o₁, s₁, one, -⟩ := gives_bind_iff.mp given
            cases ended.symm.trans one
      | ok o₁ =>
        change (rest.foldlM step o₁).run.run middle = _ ↔ _
        rw [ih]
        constructor
        · rintro ⟨before, x, after, o', between, rfl, given, failed⟩
          exact ⟨first :: before, x, after, o', between, rfl,
            gives_bind_iff.mpr ⟨o₁, middle, ended, given⟩, failed⟩
        · rintro ⟨before, x, after, o', between, split, given, failed⟩
          cases before with
          | nil =>
            cases split
            obtain ⟨rfl, rfl⟩ := gives_pure_iff.mp given
            cases ended.symm.trans failed
          | cons y before =>
            cases split
            obtain ⟨o₂, s₂, one, given⟩ := gives_bind_iff.mp given
            cases ended.symm.trans one
            exact ⟨before, x, after, o', between, rfl, given, failed⟩

section Confined

variable {touched : List String → Prop} {p : Path}

/-- Whether or not a command succeeds, it touches no files but some, among them those that the log is
written to. -/
def Confined (touched : List String → Prop) (a : Action α) (s : Session) : Prop :=
  (∀ q, LoggedTo s q → touched q) → Continues touched s (a.run.run s).2

theorem Confined.bind {f : α → Action β} (first : Confined touched a s)
    (rest : ∀ x s', Gives a s x s' → Continues touched s s' → Confined touched (f x) s') :
    Confined touched (a >>= f) s := by
  intro le
  have start := first le
  rcases run_bind_cases a f s with ⟨e, run⟩ | ⟨x, between, one, run⟩
  · rw [run]
    exact start
  · rw [run]
    rw [show a.run.run s = _ from one] at start
    exact start.trans (rest x between one start fun q hit => le q ((start.loggedTo_iff q).mp hit))

/-- A run that succeeds touches no other files. -/
theorem Confined.continues {x : α} (h : Confined touched a s) (le : ∀ q, LoggedTo s q → touched q)
    (given : Gives a s x s') : Continues touched s s' := by
  have all := h le
  rwa [show a.run.run s = _ from given] at all

theorem confined_of_same (same : (a.run.run s).2 = s) : Confined touched a s := by
  intro _
  rw [same]
  exact .refl touched s

theorem confined_pure (x : α) (s : Session) : Confined touched (pure x : Action α) s :=
  confined_of_same rfl

theorem confined_throw (f : Failure) (s : Session) : Confined touched (throw f : Action α) s :=
  confined_of_same rfl

theorem Confined.attempt (h : Confined touched a s) : Confined touched (Action.attempt a) s := by
  intro le
  rw [run_attempt]
  exact h le

theorem confined_foldlM {step : β → α → Action β}
    (h : ∀ o x s, Confined touched (step o x) s) (items : List α) (o : β) (s : Session) :
    Confined touched (items.foldlM step o) s := by
  induction items generalizing o s with
  | nil => exact confined_pure o s
  | cons first rest ih =>
    rw [List.foldlM_cons]
    exact (h o first s).bind fun o' s' _ _ => ih o' s'

theorem confined_disk (s : Session) : Confined touched Action.disk s := confined_of_same rfl

theorem confined_log (severity : Severity) (part message : String) (s : Session) :
    Confined touched (Action.log severity part message) s :=
  fun le => (continues_emit s _).mono le

theorem confined_write (text : String) (h : touched (s.disk.absolute p).names) :
    Confined touched (Action.write p text) s := by
  refine (confined_disk s).bind fun d s' given _ => ?_
  obtain ⟨rfl, rfl⟩ := gives_disk_iff.mp given
  split
  · rename_i d wrote
    exact fun _ => ⟨rfl, rfl, (Disk.kept_write wrote).mono fun q hit => by rw [hit]; exact h⟩
  · exact confined_throw _ s

theorem confined_makeDirectories (p : Path) (s : Session) :
    Confined touched (Action.makeDirectories p) s := by
  refine (confined_disk s).bind fun d s' given _ => ?_
  obtain ⟨rfl, rfl⟩ := gives_disk_iff.mp given
  refine Confined.bind (fun _ => ⟨rfl, rfl, ?_⟩) fun _ s' _ _ => ?_
  · exact (Disk.kept_makeDirectories s.disk p).mono fun _ no => no.elim
  · split
    · exact confined_pure _ s'
    · exact confined_throw _ s'

end Confined

end PropForge
