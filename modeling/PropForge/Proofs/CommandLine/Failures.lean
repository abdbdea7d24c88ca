import PropForge.CommandLine.Run
import PropForge.Proofs.Project.Abort
import PropForge.Proofs.Project.Recovery
import PropForge.Proofs.Project.Refusal

/-!
# What commands fail of

* `Untold`: the failures of a command that are not told on the console;
* `isTold_eq_false_of_untold`: they are not, whatever the command;
* `failsAs_runCommand`: each command fails of what is told or of one of these.
-/

namespace PropForge

open Project

variable {P : Failure → Prop} {α β : Type}

/-- A loop over a list fails as its steps do. -/
theorem Project.failsAs_forIn {step : α → β → Action (ForInStep β)} (items : List α)
    (steps : ∀ x b, FailsAs P (step x b)) (b : β) : FailsAs P (forIn items b step) := by
  induction items generalizing b with
  | nil => exact failsAs_pure b
  | cons x rest ih =>
    rw [List.forIn_cons]
    apply (steps x b).bind
    intro next
    cases next with
    | done b => exact failsAs_pure b
    | yield b => exact ih b

theorem Project.failsAs_forM {step : α → Action PUnit} (items : List α)
    (steps : ∀ x, FailsAs P (step x)) : FailsAs P (items.forM step) := by
  induction items with
  | nil => exact failsAs_pure _
  | cons x rest ih => exact (steps x).bind fun _ => ih

namespace CommandLine

section Failures

/-- Failures that are told on the console. -/
def isTold (f : Failure) : Bool := f.isExtraction || f.isPresence || isRefusal f

/-- Commands about components, each of which names a source. -/
def Command.ReadsSource : Command → Prop
  | .extract .. | .generate .. | .isolate .. => True
  | _ => False

/-- Commands that render templates. -/
def Command.Renders : Command → Prop
  | .generate .. | .isolate .. => True
  | _ => False

/-- Commands that ask for the project's settings. -/
def Command.ReadsSettings : Command → Prop
  | .initManifest _ | .showManifest _ => False
  | _ => True

/-- Commands that need their settings file or room for their own files: all but the one that shows a
manifest. -/
def Command.NeedsDisk : Command → Prop
  | .showManifest _ => False
  | _ => True

/-- Failures of a command that are not told. -/
inductive Untold : Command → Failure → Prop where
  /-- A file is in the place of a directory, or a directory in that of a file. -/
  | inTheWay {c : Command} {fault : DiskFault} (needs : c.NeedsDisk)
      (blocks : fault.cause = .notDirectory ∨ fault.cause = .isDirectory) : Untold c (.disk fault)
  /-- A source is below a home that is not known. -/
  | noHome {c : Command} (reads : c.ReadsSource) : Untold c .noHome
  /-- A setting has a tag that its text does not go with. -/
  | setting {c : Command} {f : Yaml.Fault} (reads : c.ReadsSettings)
      (kind : f = .emptyNumber ∨ (∃ word, f = .notTruth word) ∨ f = .notMoment) :
      Untold c (.settingsValue f)
  /-- A template is not found or cannot be rendered. -/
  | template {c : Command} {e : Template.Error} (renders : c.Renders)
      (other : ∀ fault, e ≠ .undecodable fault) : Untold c (.template e)
  /-- Stored routes cannot be merged. -/
  | route {root : Path} {fault : RouteFault} : Untold (.syncRoutes root) (.route fault)

theorem isTold_eq_false_of_untold {c : Command} {f : Failure} (h : Untold c f) :
    isTold f = false := by
  cases h with
  | @inTheWay _ fault _ blocks =>
    rcases blocks with cause | cause <;>
      simp [isTold, isRefusal, Failure.isExtraction, Failure.isPresence, Failure.isValue, cause]
  | noHome => rfl
  | setting _ kind =>
    rcases kind with rfl | ⟨word, rfl⟩ | rfl <;> rfl
  | @template _ e _ other =>
    cases e with
    | undecodable fault => exact absurd rfl (other fault)
    | _ => rfl
  | route => rfl

/-- What is told, or is one of the failures that are not. -/
def Expected (c : Command) (f : Failure) : Prop := isTold f = true ∨ Untold c f

variable {c : Command}

theorem expected_disk (needs : c.NeedsDisk) (fault : DiskFault) : Expected c (.disk fault) := by
  obtain ⟨cause, path⟩ := fault
  cases cause with
  | missing => exact .inl rfl
  | alreadyThere => exact .inl rfl
  | notDirectory => exact .inr (.inTheWay needs (.inl rfl))
  | isDirectory => exact .inr (.inTheWay needs (.inr rfl))

theorem expected_ofRead (needs : c.NeedsDisk) (fault : ReadFault) : Expected c (.ofRead fault) := by
  cases fault with
  | disk fault => exact expected_disk needs fault
  | bytes fault => exact .inl rfl

theorem expected_template (renders : c.Renders) (e : Template.Error) : Expected c (.template e) := by
  cases e with
  | undecodable fault => exact .inl rfl
  | _ => exact .inr (.template renders nofun)

theorem expected_settingsValue (reads : c.ReadsSettings) (fault : Yaml.Fault) :
    Expected c (.settingsValue fault) := by
  cases fault with
  | emptyNumber => exact .inr (.setting reads (.inl rfl))
  | notTruth word => exact .inr (.setting reads (.inr (.inl ⟨word, rfl⟩)))
  | notMoment => exact .inr (.setting reads (.inr (.inr rfl)))
  | _ => exact .inl rfl

theorem expected_of_isExtraction {f : Failure} (h : f.isExtraction = true) : Expected c f :=
  .inl (by rw [isTold, h]; rfl)

end Failures

section Commands

variable {p : Project} {c : Command} {q : Path}

theorem failsAs_disk : FailsAs P Action.disk :=
  fun _ _ failed => by cases failed

theorem failsAs_modify {f : Session → Session} : FailsAs P (modify f : Action Unit) :=
  fun _ _ failed => by cases failed

theorem failsAs_get : FailsAs P (get : Action Session) :=
  fun _ _ failed => by cases failed

theorem failsAs_throw_bind {f : Failure} {rest : α → Action β} (h : P f) :
    FailsAs P (throw f >>= rest) := by
  intro s f' failed
  cases failed
  exact h

theorem failsAs_tryRead : FailsAs P (Action.tryRead q) := by
  intro s f failed
  rw [run_tryRead] at failed
  cases failed

theorem failsAs_shortened (q : Path) : FailsAs P (Action.shortened q) := by
  refine failsAs_disk.bind fun d => ?_
  split <;> exact failsAs_pure _

theorem failsAs_printPath (q : Path) : FailsAs P (printPath q) :=
  (failsAs_shortened q).bind fun _ => failsAs_modify

theorem failsAs_expandHome (reads : c.ReadsSource) (q : Path) :
    FailsAs (Expected c) (Action.expandHome q) := by
  refine failsAs_disk.bind fun d => ?_
  split
  · exact failsAs_pure _
  · exact failsAs_throw (.inr (.noHome reads))

theorem needsDisk_of_readsSettings (reads : c.ReadsSettings) : c.NeedsDisk := by
  cases c with
  | showManifest root => exact reads
  | _ => trivial

/-- The settings of a project that is known by an absolute path. -/
theorem failsAs_settings_of_absolute (absolute : p.root.root ≠ "") (reads : c.ReadsSettings) :
    FailsAs (Expected c) p.settings := by
  have needs := needsDisk_of_readsSettings reads
  refine failsAs_settings p ?_ (expected_ofRead needs) (fun _ => .inl rfl) (expected_settingsValue reads)
  intro d unknown
  rw [Disk.expandHome_of_absolute absolute] at unknown
  cases unknown

theorem failsAs_extractSchema_expected {tables : Classification} (reads : c.ReadsSource) :
    FailsAs (Expected c) (extractSchema q tables) :=
  failsAs_extractSchema (.inr (.noHome reads)) fun _ => expected_of_isExtraction

/-- Extracting a schema needs a source, the settings, and room for what is written. -/
theorem failsAs_runExtract (absolute : p.root.root ≠ "") (file : Path) (asDocument : Bool)
    (output : Option Path) :
    FailsAs (Expected (.extract file asDocument output)) (runExtract p file asDocument output) := by
  have source : (Command.extract file asDocument output).ReadsSource := trivial
  have configured : (Command.extract file asDocument output).ReadsSettings := trivial
  have needs : (Command.extract file asDocument output).NeedsDisk := trivial
  have found : FailsAs (Expected (.extract file asDocument output)) (sourceOf file) :=
    (failsAs_expandHome source file).bind fun _ => (failsAs_log _ _ _).bind fun _ => failsAs_pure _
  have extracts : FailsAs (Expected (.extract file asDocument output)) (p.extract file) :=
    found.bind fun _ => (failsAs_settings_of_absolute absolute configured).bind fun _ =>
      failsAs_extractSchema_expected source
  refine (extracts.bind fun _ => failsAs_pure _).bind fun text => ?_
  cases output with
  | none => exact failsAs_modify.bind fun _ => failsAs_pure 0
  | some target =>
    apply (failsAs_makeDirectories (expected_disk needs)).bind
    intro _
    apply (failsAs_write (expected_disk needs)).bind
    intro _
    exact (failsAs_shortened target).bind fun _ => failsAs_modify.bind fun _ => failsAs_pure 0

/-- A batch fails for its settings, and as one that ends early does. -/
theorem failsAs_runGenerate (absolute : p.root.root ≠ "") (files : List Path)
    (choices : GenerateChoices) :
    FailsAs (Expected (.generate files choices)) (runGenerate p files choices) := by
  have configured : (Command.generate files choices).ReadsSettings := trivial
  have source : (Command.generate files choices).ReadsSource := trivial
  have renders : (Command.generate files choices).Renders := trivial
  apply (failsAs_settings_of_absolute absolute configured).bind
  intro settings
  have batch : FailsAs (Expected (.generate files choices))
      (p.generate settings (p.generateSettings settings choices) files) := by
    intro s f failed
    obtain ⟨s', failed⟩ := exists_fails failed
    obtain ⟨ends, -⟩ := generate_error_iff.mp failed
    cases f with
    | noHome => exact .inr (.noHome source)
    | template e => exact expected_template renders e
    | _ => exact ends.elim
  apply batch.bind
  intro o
  -- what is printed does not fail
  refine (failsAs_forIn _ (fun (source, written) _ => ?_) _).bind fun _ => ?_
  · split
    · exact failsAs_pure 0
    · exact failsAs_modify.bind fun _ => failsAs_pure 1
  · exact failsAs_modify.bind fun _ => (failsAs_forM _ failsAs_printPath).bind fun _ => failsAs_pure _

/-- Isolating a component asks for its schema, for room on the disk, and for what its templates give. -/
theorem failsAs_runIsolate (absolute : p.root.root ≠ "") (file outputDir : Path) (templates : Bool)
    (frameworks : List String) :
    FailsAs (Expected (.isolate file outputDir templates frameworks))
      (runIsolate p file outputDir templates frameworks) := by
  have source : (Command.isolate file outputDir templates frameworks).ReadsSource := trivial
  have configured : (Command.isolate file outputDir templates frameworks).ReadsSettings := trivial
  have needs : (Command.isolate file outputDir templates frameworks).NeedsDisk := trivial
  have renders : (Command.isolate file outputDir templates frameworks).Renders := trivial
  have isolates : FailsAs (Expected (.isolate file outputDir templates frameworks))
      (p.isolateOne file outputDir templates frameworks) := by
    apply (failsAs_settings_of_absolute absolute configured).bind
    intro settings
    rw [isolate_eq]
    apply (failsAs_extractSchema_expected source).bind
    intro schema
    apply (failsAs_makeDirectories (expected_disk needs)).bind
    intro _
    refine failsAs_get.bind fun _ => (failsAs_write (expected_disk needs)).bind fun _ => ?_
    exact failsAs_writeOthers _ (expected_disk needs) (expected_template renders)
      fun _ _ _ _ => .inl rfl
  refine isolates.bind fun found => failsAs_modify.bind fun _ => ?_
  exact (failsAs_forM _ failsAs_printPath).bind fun _ => failsAs_pure 0

theorem failsAs_readRoutes {root : Path} :
    FailsAs (Expected (.syncRoutes root)) (readRoutes q) := by
  intro s f failed
  rw [result_readRoutes] at failed
  split at failed
  · cases failed
  · rename_i content _
    cases held : routesHeld content with
    | error fault =>
      rw [held] at failed
      cases failed
      exact .inl rfl
    | ok routes =>
      rw [held] at failed
      cases failed

/-- Routes are brought up to date unless the stored ones cannot be read or merged, or there is no room
for the new ones. -/
theorem failsAs_runSyncRoutes (absolute : p.root.root ≠ "") (root : Path) :
    FailsAs (Expected (.syncRoutes root)) (runSyncRoutes p) := by
  have configured : (Command.syncRoutes root).ReadsSettings := trivial
  have needs : (Command.syncRoutes root).NeedsDisk := trivial
  have scans (appDir : Path) : FailsAs (Expected (.syncRoutes root)) (scanRoutes appDir) := by
    refine failsAs_disk.bind fun d => ?_
    split
    · exact failsAs_pure _
    · exact (failsAs_log _ _ _).bind fun _ => failsAs_pure _
  have stores (target : Path) (found : List Route) :
      FailsAs (Expected (.syncRoutes root)) (storeRoutes target found) := by
    apply failsAs_readRoutes.bind
    intro existing
    dsimp only
    split
    · refine (failsAs_pure _).bind fun _ => ?_
      apply (failsAs_makeDirectories (expected_disk needs)).bind
      intro _
      refine failsAs_get.bind fun _ => (failsAs_write (expected_disk needs)).bind fun _ => ?_
      exact (failsAs_log _ _ _).bind fun _ => failsAs_pure _
    · exact failsAs_throw_bind (.inr .route)
  refine FailsAs.bind ((failsAs_settings_of_absolute absolute configured).bind fun s => ?_)
    fun synced => ?_
  · exact (scans _).bind fun found => (failsAs_log _ _ _).bind fun _ => stores _ found
  · exact (failsAs_shortened _).bind fun _ => failsAs_modify.bind fun _ => failsAs_pure 0

theorem failsAs_initManifest (root : Path) :
    FailsAs (Expected (.initManifest root)) p.initManifest := by
  have needs : (Command.initManifest root).NeedsDisk := trivial
  have writes : FailsAs (Expected (.initManifest root)) (do
      writeManifest (Manifest.initial (← get).now) p.root) :=
    failsAs_get.bind fun _ => failsAs_get.bind fun _ =>
      (failsAs_write (expected_disk needs)).bind fun _ => (failsAs_log _ _ _).bind fun _ =>
        failsAs_pure _
  refine failsAs_disk.bind fun d => ?_
  dsimp only
  split
  · split
    · exact failsAs_throw_bind (.inl rfl)
    · exact writes
  · exact writes

/-- Showing a manifest has no failure that is not told. -/
theorem failsAs_showManifest (root : Path) :
    FailsAs (Expected (.showManifest root)) p.showManifest := by
  have refused (message : String) : FailsAs (Expected (.showManifest root)) (do
      Action.log .error "manifest" message
      return (none : Option (List (String × Json)))) :=
    (failsAs_log _ _ _).bind fun _ => failsAs_pure _
  have reads : FailsAs (Expected (.showManifest root)) (readManifest p.root) := by
    refine failsAs_disk.bind fun d => ?_
    split
    · exact failsAs_pure _
    · refine failsAs_tryRead.bind fun read => ?_
      split
      · exact failsAs_throw (.inl rfl)
      · exact refused _
      · split
        · exact failsAs_pure _
        · exact refused _
        · exact refused _
  apply reads.bind
  intro found
  split
  · exact failsAs_pure _
  · exact failsAs_throw (.inl rfl)

/-- **What a command fails of** is told, or is one of the failures that are not. -/
theorem failsAs_runCommand (absolute : p.root.root ≠ "") (c : Command) :
    FailsAs (Expected c) (runCommand p c) := by
  cases c with
  | extract file asDocument output => exact failsAs_runExtract absolute file asDocument output
  | generate files choices => exact failsAs_runGenerate absolute files choices
  | isolate file outputDir templates frameworks =>
    exact failsAs_runIsolate absolute file outputDir templates frameworks
  | syncRoutes root => exact failsAs_runSyncRoutes absolute root
  | initManifest root =>
    exact (failsAs_initManifest root).bind fun _ => (failsAs_shortened _).bind fun _ =>
      failsAs_modify.bind fun _ => failsAs_pure 0
  | showManifest root =>
    exact (failsAs_showManifest root).bind fun _ => failsAs_modify.bind fun _ => failsAs_pure 0

end Commands

end CommandLine

end PropForge
