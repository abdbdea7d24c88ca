import PropForge.Project.Basic
import PropForge.Proofs.Failure
import PropForge.Proofs.Recording

/-!
# What the settings of a project depend on

The settings are in one file, and loading them changes no more than the log:

* `settingsAt`: what a disk says of the settings, or why it says nothing;
* `error_of_settingsAt`: why it says nothing;
* `result_settings`: this is what commands find;
* `settingsAt_congr`: no other file matters.
-/

namespace PropForge.Project

variable {d d' : Disk} {s : Session} {p : Path}

/-- The settings that belong to a path, or why there are none. -/
def settingsAt (d : Disk) (p : Path) : Except Failure Settings :=
  match d.expandHome p with
  | none => .error .noHome
  | some q =>
    let file := Settings.fileFor d q
    if d.isThere file then (d.readText file).mapError .ofRead >>= Settings.ofText file.parent
    else .ok (Settings.standard file.parent)

/-- **Why there are no settings**: a home is not known, the file cannot be read, or what it says is no
settings. -/
theorem error_of_settingsAt {f : Failure} (h : settingsAt d p = .error f) :
    (f = .noHome ∧ d.expandHome p = none) ∨ (∃ fault, f = .ofRead fault) ∨
      (∃ fault, f = .settings fault) ∨ ∃ fault, f = .settingsValue fault := by
  unfold settingsAt at h
  cases expanded : d.expandHome p with
  | none =>
    rw [expanded] at h
    exact .inl ⟨(Except.error.inj h).symm, rfl⟩
  | some q =>
    rw [expanded] at h
    dsimp only at h
    split at h
    · rcases error_of_bind_eq_error h with unread | ⟨text, -, h⟩
      · cases read : d.readText (Settings.fileFor d q) with
        | ok text =>
          rw [read] at unread
          cases unread
        | error fault =>
          rw [read] at unread
          exact .inr (.inl ⟨fault, (Except.error.inj unread).symm⟩)
      · unfold Settings.ofText at h
        split at h
        · cases h
        · split at h
          · exact .inr (.inr (.inl ⟨_, (Except.error.inj h).symm⟩))
          · exact .inr (.inr (.inr ⟨_, (Except.error.inj h).symm⟩))
          · split at h
            · exact .inr (.inr (.inl ⟨_, (Except.error.inj h).symm⟩))
            · cases h
    · cases h

theorem recording_load (p : Path) : Recording (Settings.load p) := by
  refine (recording_expandHome p).bind fun q => recording_disk.bind fun d => ?_
  dsimp only
  split
  · exact recording_pure _
  · refine (recording_read _).bind fun text => ?_
    split
    · exact recording_pure _
    · exact recording_throw _

theorem result_load (p : Path) (s : Session) :
    ((Settings.load p).run.run s).1 = settingsAt s.disk p := by
  unfold Settings.load settingsAt
  rw [run_bind, run_expandHome]
  cases s.disk.expandHome p with
  | none => rfl
  | some q =>
    dsimp only
    rw [run_bind, run_disk]
    dsimp only
    cases s.disk.isThere (Settings.fileFor s.disk q) with
    | false => rfl
    | true =>
      simp only [Bool.not_true, Bool.false_eq_true, if_false, if_true]
      rw [result_bind, result_read]
      cases s.disk.readText (Settings.fileFor s.disk q) with
      | error f => rfl
      | ok text =>
        change _ = Settings.ofText (Settings.fileFor s.disk q).parent text
        dsimp only [Except.mapError]
        cases Settings.ofText (Settings.fileFor s.disk q).parent text <;> rfl

/-- **Loading the settings**, successfully or not, leaves no more than records. -/
theorem recording_settings (p : Project) : Recording p.settings :=
  (recording_load p.root).bind fun _ => (recording_log _ _ _).bind fun _ => recording_pure _

/-- **The settings** are those that the disk states. -/
theorem result_settings (p : Project) (s : Session) :
    ((p.settings).run.run s).1 = settingsAt s.disk p.root := by
  have load := result_load p.root s
  unfold settings
  rw [result_bind, load]
  cases settingsAt s.disk p.root <;> rfl

/-- Where files and directories are at the same places, the settings are in the same file. -/
theorem fileFor_congr (same : d.SameShape d') (p : Path) :
    Settings.fileFor d' p = Settings.fileFor d p := by
  unfold Settings.fileFor
  simp only [Disk.isDirectory_congr same, Disk.absolute_of_here same.here]

/-- **The settings** depend on what is where, and on what their file holds. -/
theorem settingsAt_congr (same : d.SameShape d')
    (held : ∀ q ∈ d.expandHome p,
      d'.content (Settings.fileFor d q) = d.content (Settings.fileFor d q)) :
    settingsAt d' p = settingsAt d p := by
  unfold settingsAt
  rw [Disk.expandHome_of_home same.home]
  cases expanded : d.expandHome p with
  | none => rfl
  | some q =>
    dsimp only
    rw [fileFor_congr same, Disk.isThere_congr same]
    unfold Disk.readText
    rw [held q expanded]

end PropForge.Project
