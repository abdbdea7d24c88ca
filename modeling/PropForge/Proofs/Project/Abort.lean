import PropForge.Proofs.Project.Independence

/-!
# When a batch ends early

A batch goes on after most of what can keep a component from being generated, but not after all: a
template that cannot be rendered ends it, and so does a path that begins with a home that is not known.
Nothing is reported then, not even of the components that were generated before.

* `error_of_generateOne`: why a component is not generated;
* `generateStep_cases`: what one component does to what is reported;
* `reports_of_generateSteps`: a batch that comes to its end reports each of its files;
* `generate_ends_iff`: which batches come to their ends.
-/

namespace PropForge.Project

/-- Failures after which a batch does not go on. A template that is not found, or whose file is no
text, is not among them. -/
def EndsBatch : Failure → Prop
  | .noHome => True
  | .template (.noTemplate ..) | .template (.undecodable _) => False
  | .template _ => True
  | _ => False

/-- A component fails at its turn, after those in front of it, and the batch does not go on. -/
def EndsWith (p : Project) (settings : Settings) (run : GenerateSettings) (files : List Path)
    (s : Session) (f : Failure) (s' : Session) : Prop :=
  EndsBatch f ∧ ∃ before file after o between, files = before ++ file :: after ∧
    Gives (before.foldlM (p.generateStep settings run) ⟨[], []⟩) s o between ∧
    (p.generateOne settings run file).run.run between = (.error f, s')

/-- What was found out of a file: what was written for it, or why it was not generated. -/
def Outcome.Reports (o : Outcome) (file : Path) : Prop :=
  file ∈ Assoc.keys o.written ∨ file ∈ Assoc.keys o.failures

variable {p : Project} {settings : Settings} {run : GenerateSettings} {s s' : Session}
  {file : Path} {files : List Path} {o o' : Outcome} {f : Failure}

section Component

/-- A template of a part cannot be rendered. -/
def IsTemplateFault (settings : Settings) (f : Failure) : Prop :=
  ∃ (g : Generator) (part : Part) (d : Disk) (e : Template.Error), f = .template e ∧
    g.render (Template.library (settings.templatesDir.map d.templates)) part = .error e

/-- **Why a component is not generated.** Its source cannot be found, read or understood, or has no
files that can be generated; something on the disk is in the way; a home is not known; or a template
cannot be rendered. -/
theorem error_of_generateOne
    (failed : (p.generateOne settings run file).run.run s = (.error f, s')) :
    f.isExtraction = true ∨ (∃ r, f = .generator r) ∨ (∃ fault, f = .disk fault) ∨
      (f = .noHome ∧ s.disk.sourcePath? file = none) ∨ IsTemplateFault settings f := by
  obtain ⟨start, between, noted, -, ran⟩ := run_generateOne_eq p settings run file s
  rw [ran] at failed
  cases found : componentAt start.disk start.now settings.classification run.framework file with
  | error e =>
    rw [found] at failed
    cases failed
    rcases error_of_componentAt found with ⟨unknown, nowhere⟩ | early | refused
    · rw [sourcePath?_of_home noted.continues.kept.home] at nowhere
      exact .inr (.inr (.inr (.inl ⟨unknown, nowhere⟩)))
    · exact .inl early
    · exact .inr (.inl refused)
  | ok g =>
    rw [found] at failed
    have writing : FailsAs (fun f => (∃ fault, f = .disk fault) ∨ IsTemplateFault settings f)
        (writeParts ((outputOf p run).child g.view.name) settings.templatesDir g run.parts) := by
      apply failsAs_writeParts_of
      · intro fault
        exact .inl ⟨fault, rfl⟩
      · intro part _ d e rendered
        exact .inr ⟨g, part, d, e, rfl, rendered⟩
    rcases writing between f (congrArg Prod.fst failed) with inTheWay | inTemplate
    · exact .inr (.inr (.inl inTheWay))
    · exact .inr (.inr (.inr (.inr inTemplate)))

/-- Of the failures of a component these are the ones that a batch does not tolerate. -/
theorem isTolerated_iff (failed : (p.generateOne settings run file).run.run s = (.error f, s')) :
    isTolerated f = true ↔ ¬EndsBatch f := by
  rcases error_of_generateOne failed with
    early | ⟨r, rfl⟩ | ⟨fault, rfl⟩ | ⟨rfl, -⟩ | ⟨-, -, -, e, rfl, -⟩
  · cases f <;> simp_all [isTolerated, Failure.isExtraction, EndsBatch]
  · simp [isTolerated, Failure.isValue, EndsBatch]
  · simp [isTolerated, Failure.isSystem, EndsBatch]
  · simp [isTolerated, Failure.isExtraction, Failure.isValue, Failure.isSystem, EndsBatch]
  · cases e <;>
      simp [isTolerated, Failure.isExtraction, Failure.isValue, Failure.isSystem, EndsBatch]

end Component

section Batch

/-- A step fails as its component does if the batch does not go on after that. -/
theorem run_generateStep_error (o : Outcome)
    (ran : (p.generateOne settings run file).run.run s = (.error f, s'))
    (stops : isTolerated f = false) :
    (p.generateStep settings run o file).run.run s = (.error f, s') := by
  have attempted : Gives (Action.attempt (p.generateOne settings run file)) s (.error f) s' :=
    gives_attempt_iff.mpr ran
  unfold generateStep
  rw [run_bind, show (Action.attempt (p.generateOne settings run file)).run.run s = _ from
    attempted]
  dsimp only
  rw [stops]
  rfl

/-- **One step** of a batch fails as its component does if the batch does not go on after that, and
otherwise adds to what is reported how the component ended. -/
theorem generateStep_cases (p : Project) (settings : Settings) (run : GenerateSettings) (o : Outcome)
    (file : Path) (s : Session) :
    (∃ f s', EndsBatch f ∧ (p.generateOne settings run file).run.run s = (.error f, s') ∧
      (p.generateStep settings run o file).run.run s = (.error f, s')) ∨
    ∃ r ended s', (p.generateOne settings run file).run.run s = (r, ended) ∧
      (∀ f, r = .error f → ¬EndsBatch f) ∧
      Gives (p.generateStep settings run o file) s (o.add file r) s' := by
  cases ran : (p.generateOne settings run file).run.run s with
  | mk r ended =>
    cases r with
    | ok paths =>
      exact .inr ⟨.ok paths, ended, ended, rfl, nofun, gives_generateStep_ok o ran⟩
    | error f =>
      by_cases ends : EndsBatch f
      · have stops : isTolerated f = false :=
          Bool.eq_false_iff.mpr fun goesOn => (isTolerated_iff ran).mp goesOn ends
        exact .inl ⟨f, ended, ends, rfl, run_generateStep_error o ran stops⟩
      · have goesOn : isTolerated f = true := (isTolerated_iff ran).mpr ends
        refine .inr ⟨.error f, ended, _, rfl, ?_, gives_generateStep_error o ran goesOn⟩
        rintro _ ⟨⟩
        exact ends

/-- A step fails if and only if its component does and the batch does not go on after that. -/
theorem generateStep_error_iff :
    (p.generateStep settings run o file).run.run s = (.error f, s') ↔
      EndsBatch f ∧ (p.generateOne settings run file).run.run s = (.error f, s') := by
  rcases generateStep_cases p settings run o file s with
    ⟨f', t, ends, failed, step⟩ | ⟨r, ended, t, ran, goesOn, given⟩
  · rw [step, failed]
    constructor
    · intro same
      cases same
      exact ⟨ends, rfl⟩
    · rintro ⟨-, same⟩
      cases same
      rfl
  · rw [show (p.generateStep settings run o file).run.run s = _ from given, ran]
    constructor
    · intro same
      cases same
    · rintro ⟨ends, same⟩
      cases same
      exact absurd ends (goesOn f rfl)

theorem reports_add (r : Except Failure (List Path)) (other : Path) :
    (o.add file r).Reports other ↔ o.Reports other ∨ other = file := by
  have put {α : Type} (a : α) (m : List (Path × α)) :
      other ∈ Assoc.keys (Assoc.put file a m) ↔ other ∈ Assoc.keys m ∨ other = file := by
    rw [Assoc.keys_put]
    split
    · rename_i there
      constructor
      · exact .inl
      · rintro (mem | rfl)
        · exact mem
        · exact there
    · rw [List.mem_append, List.mem_singleton]
  cases r with
  | ok paths =>
    simp only [Outcome.Reports, Outcome.add, put]
    tauto
  | error f =>
    simp only [Outcome.Reports, Outcome.add, put]
    tauto

/-- **All steps** of a batch report their files. -/
theorem reports_of_generateSteps
    (given : Gives (files.foldlM (p.generateStep settings run) o) s o' s') (other : Path) :
    o'.Reports other ↔ o.Reports other ∨ other ∈ files := by
  induction files generalizing o s with
  | nil =>
    obtain ⟨rfl, rfl⟩ := gives_pure_iff.mp given
    simp
  | cons file rest ih =>
    rw [List.foldlM_cons] at given
    obtain ⟨o₁, s₁, step, given⟩ := gives_bind_iff.mp given
    rcases generateStep_cases p settings run o file s with
      ⟨f, t, -, -, failed⟩ | ⟨r, -, t, -, -, added⟩
    · cases step.symm.trans failed
    · cases step.symm.trans added
      rw [ih given, reports_add, List.mem_cons, or_assoc]

/-- A batch fails if and only if one of its components does at its turn and the batch does not go on. -/
theorem generate_error_iff : (p.generate settings run files).run.run s = (.error f, s') ↔
    EndsWith p settings run files s f s' := by
  have steps : (p.generate settings run files).run.run s = (.error f, s') ↔
      (files.foldlM (p.generateStep settings run) ⟨[], []⟩).run.run s = (.error f, s') := by
    unfold generate
    rw [run_bind]
    cases (files.foldlM (p.generateStep settings run) ⟨[], []⟩).run.run s with
    | mk r between =>
      cases r with
      | error e =>
        constructor
        · intro h
          cases h
          rfl
        · intro h
          cases h
          rfl
      | ok o =>
        -- the last record cannot fail
        constructor
        · intro h
          cases h
        · intro h
          cases h
  rw [steps, foldlM_error_iff]
  constructor
  · rintro ⟨before, file, after, o, between, split, given, failed⟩
    obtain ⟨ends, failed⟩ := generateStep_error_iff.mp failed
    exact ⟨ends, before, file, after, o, between, split, given, failed⟩
  · rintro ⟨ends, before, file, after, o, between, split, given, failed⟩
    exact ⟨before, file, after, o, between, split, given, generateStep_error_iff.mpr ⟨ends, failed⟩⟩

/-- A batch that comes to its end reports its files and no others. -/
theorem reports_of_generate (given : Gives (p.generate settings run files) s o s') (other : Path) :
    o.Reports other ↔ other ∈ files := by
  obtain ⟨o', between, steps, given⟩ := gives_bind_iff.mp given
  obtain ⟨_, _, -, same⟩ := gives_bind_iff.mp given
  obtain ⟨rfl, -⟩ := gives_pure_iff.mp same
  rw [reports_of_generateSteps steps]
  simp [Outcome.Reports, Assoc.keys]

end Batch

section Home

theorem confined_generateOne (p : Project) (settings : Settings) (run : GenerateSettings)
    (file : Path) (s : Session) :
    Confined (fun _ => True) (p.generateOne settings run file) s := by
  intro all
  rcases p.run_generateOne settings run file s with
    ⟨f, s', failed, quiet⟩ | ⟨g, asked, between, start, -, extracted, ran⟩
  · rw [failed]
    exact quiet.mono fun _ _ => trivial
  · rw [ran]
    have before := start.trans_logged (fun _ hit => hit) extracted
    exact (before.mono fun _ _ => trivial).trans
      (confined_writeParts (fun _ _ => trivial) fun _ _ => trivial)

theorem confined_generateStep (p : Project) (settings : Settings) (run : GenerateSettings)
    (o : Outcome) (file : Path) (s : Session) :
    Confined (fun _ => True) (p.generateStep settings run o file) s := by
  refine (confined_generateOne p settings run file s).attempt.bind fun r between _ _ => ?_
  cases r with
  | ok paths => exact confined_pure _ _
  | error f =>
    dsimp only
    split
    · exact (confined_throw f between).bind fun _ _ _ _ =>
        (confined_log _ _ _ _).bind fun _ _ _ _ => confined_pure _ _
    · exact (confined_log _ _ _ _).bind fun _ _ _ _ => confined_pure _ _

/-- No component changes where the home is. -/
theorem home_of_generateSteps
    (given : Gives (files.foldlM (p.generateStep settings run) o) s o' s') :
    s'.disk.home = s.disk.home := by
  have confined := confined_foldlM (confined_generateStep p settings run) files o s
  exact (confined.continues (fun _ _ => trivial) given).kept.home

end Home

section Sample

/-- A component with something inside and one without, and a template that can only be rendered for
the second. -/
def spoiledSample : Session :=
  { tagsSample .initial with
    disk.tree := .directory [
      ("a", .directory [("Tag.ts", .file (.text (tagSource "children: A")))]),
      ("b", .directory [("Tag.ts", .file (.text (tagSource "b: B")))]),
      ("t", .directory [("shared", .directory [("types.ts.j2", .file
        (.text "\x7b% if ctx.has_children %\x7d\x7b\x7b nope \x7d\x7d\x7b% endif %\x7d"))])])] }

def spoiledSettings : Settings :=
  { Settings.standard (.ofNames []) with templatesDir := some (.ofText "t") }

def generateSpoiled (files : List Path) : Action Outcome :=
  generate ⟨.ofNames []⟩ spoiledSettings typesSample files

end Sample

end PropForge.Project
