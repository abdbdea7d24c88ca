import PropForge.Proofs.Project.Describe

/-!
# What a batch leaves

Components of one name are generated into one directory. What is found there after a batch is the
last one of them:

* `run_generateOne`: a component fails before anything is written, or its parts are written;
* `Settled.step`: what one more component does to the files of those before it;
* `generate_last`: at the end each file holds the text of the last component of its name.
-/

namespace PropForge

/-- The file that is read if a file is asked for. -/
def Disk.sourcePath? (d : Disk) (file : Path) : Option Path := (d.expandHome file).bind d.expandHome

namespace Project

/-- The component that a file describes, as files are generated from it. -/
def Describes (d : Disk) (tables : Classification) (framework : String) (file : Path)
    (g : Generator) : Prop :=
  ∃ path source, ∃ schema : Schema, d.sourcePath? file = some path ∧ HoldsSource d path source ∧
    Extraction.contract? tables source = some schema.contract ∧
    schema.implementation = Extraction.implementation source ∧
    schema.state = Extraction.stateUse source ∧ Generator.make tables framework schema = .ok g

/-- The directory for what is generated. -/
def outputOf (p : Project) (run : GenerateSettings) : Path :=
  run.outputDir.getD (p.root.child "generated")

/-- Where a part of a component is generated. -/
def generatedFile (output : Path) (g : Generator) (part : Part) : Path :=
  (output.child g.view.name).child (g.fileName part)

/-- The files of a component hold its texts. -/
def Stored (output : Path) (parts : List Part) (g : Generator) (d : Disk) : Prop :=
  ∀ part ∈ parts, ∃ t, g.render (Template.library none) part = .ok t ∧
    d.content (generatedFile output g part) = .ok (.text t)

variable {p : Project} {settings : Settings} {run : GenerateSettings} {s s' : Session}
  {tables : Classification} {framework : String} {file output : Path} {g : Generator} {part : Part}
  {touched : List String → Prop}

section One

/-- A component that is found is described by what the file holds. -/
theorem describes_of_componentAt {d : Disk} {now : Timestamp}
    (h : componentAt d now tables framework file = .ok g) : Describes d tables framework file g := by
  unfold componentAt at h
  split at h
  · cases h
  rename_i asked expanded
  obtain ⟨schema, found, made⟩ := exists_of_bind_eq_ok h
  unfold schemaAt at found
  split at found
  · cases found
  rename_i path again
  obtain ⟨source, held, found⟩ := exists_of_bind_eq_ok found
  unfold schemaOf at found
  split at found
  · cases found
  rename_i contract described
  cases found
  refine ⟨path, source, ⟨contract, Extraction.implementation source, Extraction.stateUse source,
    ⟨asked.text, now, contract.validate, schemaVersion⟩⟩, ?_, holdsSource_of_sourceAt held,
    described, rfl, rfl, ?_⟩
  · rw [Disk.sourcePath?, expanded]
    exact again
  · cases make : Generator.make tables framework _ with
    | error r =>
      rw [make] at made
      cases made
    | ok g' =>
      rw [make] at made
      cases made
      rfl

/-- **One component.** It fails with no more than records of it, or it is described and its parts are
written, as far as they can be. -/
theorem run_generateOne (p : Project) (settings : Settings) (run : GenerateSettings) (file : Path)
    (s : Session) :
    (∃ f s', (p.generateOne settings run file).run.run s = (.error f, s') ∧
      Continues (LoggedTo s) s s') ∨
    ∃ g asked between, Continues (LoggedTo s) s asked ∧
      Describes asked.disk settings.classification run.framework file g ∧
      Continues (LoggedTo asked) asked between ∧
      (p.generateOne settings run file).run.run s =
        (writeParts ((outputOf p run).child g.view.name) settings.templatesDir g
          run.parts).run.run between := by
  obtain ⟨asked, between, noted, looked, ran⟩ := run_generateOne_eq p settings run file s
  cases found : componentAt asked.disk asked.now settings.classification run.framework file with
  | error f =>
    rw [found] at ran
    exact .inl ⟨f, between, ran, (noted.trans looked).continues⟩
  | ok g =>
    rw [found] at ran
    exact .inr ⟨g, asked, between, noted.continues, describes_of_componentAt found,
      looked.continues, ran⟩

end One

section Places

theorem sourcePath?_of_home {d d' : Disk} (home : d'.home = d.home) (file : Path) :
    d'.sourcePath? file = d.sourcePath? file := by
  rw [Disk.sourcePath?, Disk.sourcePath?, Disk.expandHome_of_home home]
  exact congrArg _ (funext fun _ => Disk.expandHome_of_home home _)

/-- A file describes the same on every disk that holds the same there. -/
theorem Describes.congr {d d' : Disk} (h : Describes d tables framework file g)
    (home : d'.home = d.home) (content : ∀ path, d.sourcePath? file = some path →
      ∀ c, d.content path = .ok c → d'.content path = .ok c) :
    Describes d' tables framework file g := by
  obtain ⟨path, source, schema, found, ⟨c, text, held, exact, rfl⟩, rest⟩ := h
  exact ⟨path, _, schema, (sourcePath?_of_home home file).trans found,
    ⟨c, text, content path found c held, exact, rfl⟩, rest⟩

theorem Describes.made {d : Disk} (h : Describes d tables framework file g) :
    ∃ schema, Generator.make tables framework schema = .ok g := by
  obtain ⟨-, -, schema, -, -, -, -, -, made⟩ := h
  exact ⟨schema, made⟩

theorem isFileName_view {schema : Schema} (made : Generator.make tables framework schema = .ok g) :
    IsFileName g.view.name := by
  obtain ⟨name, -, identifier, -⟩ := Generator.name_of_make made
  rw [name]
  exact Naming.isFileName_of_isIdentifier identifier

/-- A generated file stands in the directory of its component. -/
theorem absolute_generatedFile {schema : Schema}
    (made : Generator.make tables framework schema = .ok g) (d : Disk) (output : Path) (part : Part) :
    (d.absolute (generatedFile output g part)).names =
      (d.absolute output).names ++ [g.view.name, g.fileName part] := by
  rw [generatedFile, Disk.absolute_child (g.isFileName_fileName made part),
    Disk.absolute_child (isFileName_view made), List.append_assoc]
  rfl

/-- Components of one name share their files. -/
theorem generatedFile_congr {g' : Generator} {schema schema' : Schema}
    (made : Generator.make tables framework schema = .ok g)
    (made' : Generator.make tables framework schema' = .ok g') (same : g'.view.name = g.view.name) :
    generatedFile output g' = generatedFile output g := by
  obtain ⟨name, lower, -, framework⟩ := Generator.name_of_make made
  obtain ⟨name', lower', -, framework'⟩ := Generator.name_of_make made'
  funext part
  rw [generatedFile, generatedFile, Generator.fileName, Generator.fileName, same, lower, lower',
    ← name, ← name', same, Framework.eq_of_name (framework'.trans framework.symm)]

end Places

/-- Neither the files that are asked for nor those that the log is written to are among the generated
ones, and they are not the same. -/
structure Clear (output : Path) (files : List Path) (s : Session) : Prop where
  unlogged : ∀ q, LoggedTo s q → ¬ (s.disk.absolute output).names <+: q
  source : ∀ file ∈ files, ∀ path, s.disk.sourcePath? file = some path →
    ¬ LoggedTo s (s.disk.absolute path).names ∧
      ¬ (s.disk.absolute output).names <+: (s.disk.absolute path).names

section Step

variable {files : List Path}

theorem Clear.continues (clear : Clear output files s) (h : Continues touched s s') :
    Clear output files s' where
  unlogged q hit := by
    rw [h.absolute]
    exact clear.unlogged q ((h.loggedTo_iff q).mp hit)
  source file mem path found := by
    rw [h.loggedTo_iff, h.absolute, h.absolute]
    rw [sourcePath?_of_home h.kept.home] at found
    exact clear.source file mem path found

/-- What may be touched while a component is generated. -/
def Touchable (output : Path) (s : Session) (q : List String) : Prop :=
  LoggedTo s q ∨ (s.disk.absolute output).names <+: q

theorem touchable_iff (h : Continues touched s s') (q : List String) :
    Touchable output s' q ↔ Touchable output s q := by
  rw [Touchable, Touchable, h.loggedTo_iff, h.absolute]

/-- A file goes on to describe what it described. -/
theorem Describes.continues (clear : Clear output files s) (mem : file ∈ files)
    (h : Continues (Touchable output s) s s')
    (described : Describes s.disk tables framework file g) :
    Describes s'.disk tables framework file g := by
  refine described.congr h.kept.home fun path found c held => ?_
  obtain ⟨unlogged, outside⟩ := clear.source file mem path found
  exact h.content (not_or.mpr ⟨unlogged, outside⟩) held

theorem Stored.continues {parts : List Part} (stored : Stored output parts g s.disk)
    (h : Continues touched s s')
    (apart : ∀ part ∈ parts, ¬ touched (s.disk.absolute (generatedFile output g part)).names) :
    Stored output parts g s'.disk := by
  intro part mem
  obtain ⟨t, rendered, held⟩ := stored part mem
  exact ⟨t, rendered, h.content (apart part mem) held⟩

/-- What a batch has left on a disk: `done` lists the files that were generated from, in order, with
their components. -/
structure Settled (p : Project) (settings : Settings) (run : GenerateSettings)
    (done : List (Path × Generator)) (written : List (Path × List Path)) (d : Disk) : Prop where
  listed : written =
    done.map fun e => (e.1, run.parts.map (generatedFile (outputOf p run) e.2))
  described : ∀ e ∈ done, Describes d settings.classification run.framework e.1 e.2
  stored : ∀ before e after, done = before ++ e :: after →
    (∀ later ∈ after, later.2.view.name ≠ e.2.view.name) →
    Stored (outputOf p run) run.parts e.2 d

variable {done : List (Path × Generator)} {written : List (Path × List Path)}

/-- What touches no file of the components leaves them settled. -/
theorem Settled.continues (h : Settled p settings run done written s.disk)
    (clear : Clear (outputOf p run) files s) (sub : ∀ e ∈ done, e.1 ∈ files)
    (on : Continues (Touchable (outputOf p run) s) s s') (quiet : Continues touched s s')
    (apart : ∀ e ∈ done, ∀ part ∈ run.parts,
      ¬ touched (s.disk.absolute (generatedFile (outputOf p run) e.2 part)).names) :
    Settled p settings run done written s'.disk where
  listed := h.listed
  described e mem := (h.described e mem).continues clear (sub e mem) on
  stored before e after split last := by
    have mem : e ∈ done := by simp [split]
    exact (h.stored before e after split last).continues quiet (apart e mem)

/-- The last of the items of a list that have a property. -/
theorem exists_last {α : Type} {P : α → Prop} {items : List α} (h : ∃ a ∈ items, P a) :
    ∃ before a after, items = before ++ a :: after ∧ P a ∧ ∀ b ∈ after, ¬ P b := by
  induction items with
  | nil =>
    obtain ⟨a, mem, -⟩ := h
    cases mem
  | cons first rest ih =>
    by_cases later : ∃ a ∈ rest, P a
    · obtain ⟨before, a, after, rfl, holds, none⟩ := ih later
      exact ⟨first :: before, a, after, rfl, holds, none⟩
    · obtain ⟨a, mem, holds⟩ := h
      rcases List.mem_cons.mp mem with rfl | mem
      · exact ⟨[], a, rest, rfl, holds, fun b hb pb => later ⟨b, hb, pb⟩⟩
      · exact absurd ⟨a, mem, holds⟩ later

/-- Each file of a component holds the text of the last component of its name. -/
theorem Settled.last {d : Disk} (h : Settled p settings run done written d)
    {before after : List (Path × Generator)} {e : Path × Generator}
    (split : done = before ++ e :: after) :
    ∃ between last rest, e :: after = between ++ last :: rest ∧
      last.2.view.name = e.2.view.name ∧ (∀ later ∈ rest, later.2.view.name ≠ e.2.view.name) ∧
      ∀ part ∈ run.parts, ∃ t, last.2.render (Template.library none) part = .ok t ∧
        d.content (generatedFile (outputOf p run) e.2 part) = .ok (.text t) := by
  obtain ⟨schema, made⟩ := (h.described e (by simp [split])).made
  obtain ⟨between, last, rest, found, same, others⟩ := exists_last
    (P := fun x : Path × Generator => x.2.view.name = e.2.view.name) ⟨e, List.mem_cons_self, rfl⟩
  rw [found, ← List.append_assoc] at split
  obtain ⟨schema', made'⟩ := (h.described last (by simp [split])).made
  have stored := h.stored _ last rest split fun later mem => by
    rw [same]
    exact others later mem
  rw [Stored, generatedFile_congr made made' same] at stored
  exact ⟨between, last, rest, found, same, others, stored⟩

/-- What is touched while the parts of a component are written. -/
def Within (output : Path) (g : Generator) (s : Session) (q : List String) : Prop :=
  LoggedTo s q ∨ (s.disk.absolute output).names ++ [g.view.name] <+: q

theorem Within.touchable {q : List String} (h : Within output g s q) : Touchable output s q :=
  h.imp_right (List.prefix_append _ _).trans

/-- Files of components of other names are not touched. -/
theorem Clear.not_within (clear : Clear output files s) {g' : Generator} {schema : Schema}
    (made : Generator.make tables framework schema = .ok g') (other : g'.view.name ≠ g.view.name)
    (part : Part) : ¬ Within output g s (s.disk.absolute (generatedFile output g' part)).names := by
  rw [absolute_generatedFile made]
  rintro (hit | below)
  · exact clear.unlogged _ hit (List.prefix_append _ _)
  · rw [List.prefix_append_right_inj, List.cons_prefix_cons] at below
    exact other below.1.symm

theorem Clear.not_loggedTo (clear : Clear output files s) {schema : Schema}
    (made : Generator.make tables framework schema = .ok g) (part : Part) :
    ¬ LoggedTo s (s.disk.absolute (generatedFile output g part)).names := by
  rw [absolute_generatedFile made]
  exact fun hit => clear.unlogged _ hit (List.prefix_append _ _)

theorem confined_component {dir? : Option Path} {schema : Schema} {parts : List Part}
    (made : Generator.make tables framework schema = .ok g) :
    Confined (Within output g s) (writeParts (output.child g.view.name) dir? g parts) s := by
  refine confined_writeParts fun part _ => .inr ?_
  rw [show (output.child g.view.name).child (g.fileName part) = generatedFile output g part from rfl,
    absolute_generatedFile made]
  exact List.prefix_append_right_inj _ |>.mpr (List.cons_prefix_cons.mpr ⟨rfl, List.nil_prefix⟩)

/-- **A component whose parts are written** takes the place of those of its name. -/
theorem Settled.add {paths : List Path}
    (h : Settled p settings run done written s.disk) (clear : Clear (outputOf p run) files s)
    (sub : ∀ e ∈ done, e.1 ∈ files) (mem : file ∈ files) (fresh : file ∉ done.map (·.1))
    (described : Describes s.disk settings.classification run.framework file g)
    (wrote : Gives (writeParts ((outputOf p run).child g.view.name) none g run.parts) s paths s') :
    Settled p settings run (done ++ [(file, g)]) (Assoc.put file paths written) s'.disk := by
  obtain ⟨schema, made⟩ := described.made
  have within := (confined_component made).continues (fun _ => .inl) wrote
  have on := within.mono fun _ => Within.touchable
  obtain ⟨rfl, stored⟩ := writeParts_spec wrote (g.isFileName_fileName made) (g.nodup_fileNames run)
    fun part _ => clear.not_loggedTo made part
  refine ⟨?listed, ?described, ?stored⟩
  case listed =>
    rw [h.listed, Assoc.put_of_notMem, List.map_append]
    · rfl
    · rwa [Assoc.keys, List.map_map]
  case described =>
    rw [List.forall_mem_append, List.forall_mem_singleton]
    exact ⟨fun e hit => (h.described e hit).continues clear (sub e hit) on,
      described.continues clear mem on⟩
  case stored =>
    intro before e after split last
    rcases List.eq_nil_or_concat' after with rfl | ⟨earlier, new, rfl⟩
    · obtain ⟨-, same⟩ := List.append_inj' split rfl
      cases same
      exact stored
    · -- an older component is not touched, because it has another name
      rw [← List.cons_append, ← List.append_assoc] at split
      obtain ⟨old, same⟩ := List.append_inj' split rfl
      cases same
      rw [List.forall_mem_append, List.forall_mem_singleton] at last
      obtain ⟨schema', made'⟩ := (h.described e (by simp [old])).made
      exact (h.stored before e earlier old last.1).continues within
        fun part _ => clear.not_within made' (Ne.symm last.2) part

/-- Where a component of its name was generated, the parts of another can be written. -/
theorem Settled.gives_writeParts (h : Settled p settings run done written s.disk)
    (clear : Clear (outputOf p run) files s)
    (described : Describes s.disk settings.classification run.framework file g)
    {e : Path × Generator} (mem : e ∈ done) (same : e.2.view.name = g.view.name) :
    ∃ paths s', Gives (writeParts ((outputOf p run).child g.view.name) none g run.parts) s paths s' := by
  obtain ⟨schema, made⟩ := described.made
  obtain ⟨schema', made'⟩ := (h.described e mem).made
  obtain ⟨before, after, split⟩ := List.append_of_mem mem
  obtain ⟨_, _, _, _, _, _, held⟩ := h.last split
  have there (part : Part) (wanted : part ∈ run.parts) : ∃ c,
      s.disk.content (((outputOf p run).child g.view.name).child (g.fileName part)) = .ok c := by
    obtain ⟨t, -, stored⟩ := held part wanted
    rw [generatedFile_congr made made' same] at stored
    exact ⟨_, stored⟩
  obtain ⟨rest, parts⟩ := parts_eq run
  obtain ⟨c, first⟩ := there .component (by simp [parts])
  exact Project.gives_writeParts (g.isFileName_fileName made) (Disk.isDirectory_of_content first)
    (fun part _ => clear.not_loggedTo made part) there

/-- If its parts cannot be written, none of its name was generated before. -/
theorem Settled.failed {f : Failure} (h : Settled p settings run done written s.disk)
    (clear : Clear (outputOf p run) files s)
    (described : Describes s.disk settings.classification run.framework file g)
    (ran : (writeParts ((outputOf p run).child g.view.name) none g run.parts).run.run s =
      (.error f, s')) :
    Continues (Within (outputOf p run) g s) s s' ∧ ∀ e ∈ done, e.2.view.name ≠ g.view.name := by
  obtain ⟨schema, made⟩ := described.made
  have confined : Confined (Within (outputOf p run) g s)
      (writeParts ((outputOf p run).child g.view.name) none g run.parts) s := confined_component made
  have within := confined fun _ => .inl
  rw [ran] at within
  refine ⟨within, fun e mem same => ?_⟩
  obtain ⟨paths, t, wrote⟩ := h.gives_writeParts clear described mem same
  cases ran.symm.trans wrote

/-- Records alone leave the components settled. -/
theorem Settled.logged (h : Settled p settings run done written s.disk)
    (clear : Clear (outputOf p run) files s) (sub : ∀ e ∈ done, e.1 ∈ files)
    (quiet : Continues (LoggedTo s) s s') : Settled p settings run done written s'.disk := by
  refine h.continues clear sub (quiet.mono fun _ => .inl) quiet fun e mem part _ => ?_
  obtain ⟨schema, made⟩ := (h.described e mem).made
  exact clear.not_loggedTo made part

/-- **A component whose parts cannot be written** leaves those before it as they are. -/
theorem Settled.unwritten {f : Failure} {t : Session}
    (h : Settled p settings run done written s.disk) (clear : Clear (outputOf p run) files s)
    (sub : ∀ e ∈ done, e.1 ∈ files)
    (described : Describes s.disk settings.classification run.framework file g)
    (ran : (writeParts ((outputOf p run).child g.view.name) none g run.parts).run.run s =
      (.error f, t))
    (quiet : Continues (LoggedTo t) t s') :
    Continues (Touchable (outputOf p run) s) s s' ∧
      Settled p settings run done written s'.disk := by
  obtain ⟨within, others⟩ := h.failed clear described ran
  have within := within.trans_logged (fun _ => .inl) quiet
  have on := within.mono fun _ => Within.touchable
  refine ⟨on, h.continues clear sub on within fun e mem part _ => ?_⟩
  obtain ⟨schema, made⟩ := (h.described e mem).made
  exact clear.not_within made (others e mem) part

/-- A failure that does not end the batch is recorded. -/
theorem written_of_recorded {f : Failure} {o o' : Outcome}
    (h : Gives (do
      if !isTolerated f then throw f
      Action.log .error "orchestrator" s!"Failed to generate {file.text}: {f.message}"
      return { o with failures := Assoc.put file f.message o.failures }) s o' s') :
    o'.written = o.written ∧ Continues (LoggedTo s) s s' := by
  split at h
  · obtain ⟨_, _, bad, _⟩ := gives_bind_iff.mp h
    exact absurd bad (not_gives_throw _ _)
  · obtain ⟨_, noted, log, same⟩ := gives_bind_iff.mp h
    obtain ⟨rfl, rfl⟩ := gives_pure_iff.mp same
    exact ⟨rfl, continues_log log⟩

/-- **One more component** of a batch, whether or not it can be generated. -/
theorem Settled.step {o o' : Outcome} (h : Settled p settings run done o.written s.disk)
    (bundled : settings.templatesDir = none) (clear : Clear (outputOf p run) files s)
    (sub : ∀ e ∈ done, e.1 ∈ files) (mem : file ∈ files) (fresh : file ∉ done.map (·.1))
    (step : Gives (p.generateStep settings run o file) s o' s') :
    Continues (Touchable (outputOf p run) s) s s' ∧ ∃ more, (more.map (·.1)).Sublist [file] ∧
      Settled p settings run (done ++ more) o'.written s'.disk := by
  obtain ⟨r, ended, attempted, step⟩ := gives_bind_iff.mp step
  have ran := gives_attempt_iff.mp attempted
  rcases p.run_generateOne settings run file s with
    ⟨f, s₁, failed, quiet⟩ | ⟨g, asked, between, start, described, extracted, parts⟩
  · cases ran.symm.trans failed
    obtain ⟨same, more⟩ := written_of_recorded step
    have quiet := quiet.trans_logged (fun _ hit => hit) more
    refine ⟨quiet.mono fun _ => .inl, [], List.nil_sublist _, ?_⟩
    rw [List.append_nil, same]
    exact h.logged clear sub quiet
  · -- the parts are written where the records before left the disk
    have quiet := start.trans_logged (fun _ hit => hit) extracted
    have before := h.logged clear sub quiet
    have described := described.continues (clear.continues start) mem (extracted.mono fun _ => .inl)
    have clear := clear.continues quiet
    rw [bundled] at parts
    have wrote := parts.symm.trans ran
    have touches (t : Session) (on : Continues (Touchable (outputOf p run) between) between t) :
        Continues (Touchable (outputOf p run) s) s t :=
      (quiet.mono fun _ => .inl).trans (on.mono fun q => (touchable_iff quiet q).mp)
    cases r with
    | ok paths =>
      obtain ⟨rfl, rfl⟩ := gives_pure_iff.mp step
      obtain ⟨schema, made⟩ := described.made
      have within := (confined_component made).continues (fun _ => .inl) wrote
      exact ⟨touches _ (within.mono fun _ => Within.touchable), [(file, g)], .refl _,
        before.add clear sub mem fresh described wrote⟩
    | error f =>
      obtain ⟨same, more⟩ := written_of_recorded step
      obtain ⟨on, settled⟩ := before.unwritten clear sub described wrote more
      refine ⟨touches _ on, [], List.nil_sublist _, ?_⟩
      rw [List.append_nil, same]
      exact settled

/-- All components of a batch in turn. -/
theorem Settled.steps {todo : List Path} {o o' : Outcome}
    (h : Settled p settings run done o.written s.disk) (bundled : settings.templatesDir = none)
    (clear : Clear (outputOf p run) files s) (sub : ∀ e ∈ done, e.1 ∈ files)
    (mem : ∀ file ∈ todo, file ∈ files) (fresh : (done.map (·.1) ++ todo).Nodup)
    (steps : Gives (todo.foldlM (p.generateStep settings run) o) s o' s') :
    Continues (Touchable (outputOf p run) s) s s' ∧ ∃ more, (more.map (·.1)).Sublist todo ∧
      Settled p settings run (done ++ more) o'.written s'.disk := by
  induction todo generalizing done o s with
  | nil =>
    obtain ⟨rfl, rfl⟩ := gives_pure_iff.mp steps
    exact ⟨.refl _ s, [], .slnil, by rwa [List.append_nil]⟩
  | cons file todo ih =>
    rw [List.foldlM_cons] at steps
    obtain ⟨o₁, s₁, step, steps⟩ := gives_bind_iff.mp steps
    obtain ⟨here, rest⟩ := List.forall_mem_cons.mp mem
    have new : file ∉ done.map (·.1) := by
      intro old
      exact (List.disjoint_of_nodup_append fresh) old List.mem_cons_self
    obtain ⟨on, more, one, settled⟩ := h.step bundled clear sub here new step
    have sub' : ∀ e ∈ done ++ more, e.1 ∈ files := by
      refine List.forall_mem_append.mpr ⟨sub, fun e hit => ?_⟩
      rw [List.mem_singleton.mp (one.subset (List.mem_map_of_mem hit))]
      exact here
    have fresh' : ((done ++ more).map (·.1) ++ todo).Nodup := by
      rw [List.map_append, List.append_assoc]
      exact fresh.sublist ((List.Sublist.refl _).append (one.append (.refl todo)))
    obtain ⟨on', later, rest, settled⟩ := ih settled (clear.continues on) sub' rest fresh' steps
    refine ⟨on.trans (on'.mono fun q => (touchable_iff on q).mp), more ++ later, ?_, ?_⟩
    · rw [List.map_append]
      exact one.append rest
    · rwa [← List.append_assoc]

end Step

/-- A batch from its beginning to its end. -/
theorem generate_settled {o : Outcome} {files : List Path} (bundled : settings.templatesDir = none)
    (distinct : files.Nodup) (clear : Clear (outputOf p run) files s)
    (h : Gives (p.generate settings run files) s o s') :
    ∃ done, (done.map (·.1)).Sublist files ∧ Settled p settings run done o.written s'.disk := by
  obtain ⟨o', between, steps, h⟩ := gives_bind_iff.mp h
  obtain ⟨_, noted, log, same⟩ := gives_bind_iff.mp h
  obtain ⟨rfl, rfl⟩ := gives_pure_iff.mp same
  have start : Settled p settings run [] (⟨[], []⟩ : Outcome).written s.disk :=
    ⟨rfl, nofun, fun before e after split => by simp at split⟩
  obtain ⟨on, done, sub, settled⟩ :=
    start.steps bundled clear nofun (fun _ mem => mem) distinct steps
  exact ⟨done, sub, settled.logged (clear.continues on)
    (fun e mem => sub.subset (List.mem_map_of_mem mem)) (continues_log log)⟩

/-- **A batch.** Its outcome lists the files that were generated from, in order, with the paths of the
parts of their components; at the end each of these paths holds the text of the last component of the
name. -/
theorem generate_last {o : Outcome} {files : List Path} (bundled : settings.templatesDir = none)
    (distinct : files.Nodup) (clear : Clear (outputOf p run) files s)
    (h : Gives (p.generate settings run files) s o s') :
    ∃ done : List (Path × Generator), (done.map (·.1)).Sublist files ∧
      o.written = done.map (fun e => (e.1, run.parts.map (generatedFile (outputOf p run) e.2))) ∧
      (∀ e ∈ done, Describes s'.disk settings.classification run.framework e.1 e.2) ∧
      ∀ before e after, done = before ++ e :: after →
        ∃ between last rest, e :: after = between ++ last :: rest ∧
          last.2.view.name = e.2.view.name ∧
          (∀ later ∈ rest, later.2.view.name ≠ e.2.view.name) ∧
          ∀ part ∈ run.parts, ∃ t, last.2.render (Template.library none) part = .ok t ∧
            s'.disk.content (generatedFile (outputOf p run) e.2 part) = .ok (.text t) := by
  obtain ⟨done, sub, settled⟩ := generate_settled bundled distinct clear h
  exact ⟨done, sub, settled.listed, settled.described, fun _ _ _ split => settled.last split⟩

section Sample

/-- The source of a component with one prop. -/
def tagSource (prop : String) : String := "interface TagProps \x7b " ++ prop ++ " \x7d"

/-- Two sources that describe components of one name. -/
def tagsSample (log : Log) : Session where
  disk.tree := .directory [
    ("a", .directory [("Tag.ts", .file (.text (tagSource "a: A")))]),
    ("b", .directory [("Tag.ts", .file (.text (tagSource "b: B")))])]
  disk.here := []
  disk.home := .ofNames ["home"]
  log := log
  now := ⟨2024, 1, 2, 3, 4, 5, 678901, some 0⟩
  output := ""
  errorOutput := ""

def tagA : Path := .ofText "a/Tag.ts"

def tagB : Path := .ofText "b/Tag.ts"

/-- Where the types of both go. -/
def typesFile : Path := .ofText "/generated/Tag/tag.types.ts"

/-- The types of the first. -/
def typesText : String :=
  "// Generated TypeScript types for Tag component\n\nexport interface TagProps \x7b\n" ++
    "  // Core props\n  a: A;\n\x7d\n"

/-- A component with its types. -/
def typesSample : GenerateSettings :=
  { GenerateSettings.standard with
    framework := "svelte"
    includeTests := false
    includeStories := false
    includeDocumentation := false }

def generateTags (files : List Path) : Action Outcome :=
  generate ⟨.ofNames []⟩ (.standard (.ofNames [])) typesSample files

/-- At first the log is written to no file. -/
theorem not_loggedTo_initial (q : List String) : ¬ LoggedTo (tagsSample .initial) q :=
  not_loggedTo_of_initial rfl q

theorem clear_sample {files : List Path} (known : ∀ file ∈ files, file = tagA ∨ file = tagB) :
    Clear (outputOf ⟨.ofNames []⟩ typesSample) files (tagsSample .initial) := by
  refine ⟨fun q hit => absurd hit (not_loggedTo_initial q), fun file mem path found =>
    ⟨not_loggedTo_initial _, ?_⟩⟩
  rcases known file mem with rfl | rfl
  · obtain rfl : tagA = path := Option.some.inj found
    decide
  · obtain rfl : tagB = path := Option.some.inj found
    decide

/-- What the first source describes, and its types. -/
theorem described_tagA : ∃ g,
    (∀ d : Disk, d.content tagA = .ok (.text (tagSource "a: A")) →
      Describes d .standard "svelte" tagA g) ∧
    g.render (Template.library none) .types = .ok typesText := by
  let source := TypeScript.Source.ofText .plain (tagSource "a: A")
  let schema (contract : Contract) : Schema :=
    ⟨contract, Extraction.implementation source, Extraction.stateUse source,
      ⟨tagA.text, (tagsSample .initial).now, contract.validate, schemaVersion⟩⟩
  have seen : ((Extraction.contract? .standard source).bind fun contract =>
      (Generator.make .standard "svelte" (schema contract)).toOption.bind fun g =>
        (g.render (Template.library none) .types).toOption) = some typesText := by
    decide +kernel
  obtain ⟨contract, described, seen⟩ := Option.bind_eq_some_iff.mp seen
  obtain ⟨g, made, rendered⟩ := Option.bind_eq_some_iff.mp seen
  exact ⟨g, fun d content => ⟨tagA, source, schema contract, rfl, ⟨_, _, content, rfl, rfl⟩,
    described, rfl, rfl, ok_of_toOption made⟩, ok_of_toOption rendered⟩

/-- These files are generated from, the types of the first component among what is written, and in
the end they are not what is rendered from its source. -/
def SpoilsTypes (files : List Path) (log : Log) : Prop :=
  ∃ o s', Gives (generateTags files) (tagsSample log) o s' ∧
    (∃ paths, (tagA, paths) ∈ o.written ∧ typesFile ∈ paths) ∧
    ∃ g t, Describes s'.disk .standard "svelte" tagA g ∧
      g.render (Template.library none) .types = .ok t ∧ s'.disk.content typesFile ≠ .ok (.text t)

theorem spoilsTypes {files : List Path} {log : Log}
    (seen : let run := (generateTags files).run.run (tagsSample log)
      (run.1.toOption.map fun o =>
          o.written.any fun (file, paths) => file = tagA && paths.contains typesFile,
        run.2.disk.content tagA,
        decide (run.2.disk.content typesFile = .ok (.text typesText))) =
      (some true, .ok (.text (tagSource "a: A")), false)) : SpoilsTypes files log := by
  obtain ⟨written, seen⟩ := Prod.mk.inj seen
  obtain ⟨source, spoiled⟩ := Prod.mk.inj seen
  obtain ⟨g, described, rendered⟩ := described_tagA
  obtain ⟨o, s', given, written⟩ := exists_gives written
  rw [← session_of_gives given] at source spoiled
  refine ⟨o, s', given, ?_, g, _, described _ source, rendered, of_decide_eq_false spoiled⟩
  obtain ⟨⟨file, paths⟩, mem, found⟩ := List.any_eq_true.mp written
  rw [Bool.and_eq_true, decide_eq_true_iff, List.contains_iff_mem] at found
  obtain ⟨rfl, listed⟩ := found
  exact ⟨paths, mem, listed⟩

/-- The second component takes the place of the first. -/
theorem spoilsTypes_both : SpoilsTypes [tagA, tagB] .initial := spoilsTypes (by decide +kernel)

/-- A component takes the place of another of its batch, and records can go to what was generated. -/
theorem generate_overwrites :
    ([tagA, tagB].Nodup ∧ SpoilsTypes [tagA, tagB] .initial ∧
      Clear (outputOf ⟨.ofNames []⟩ typesSample) [tagA, tagB] (tagsSample .initial)) ∧
    SpoilsTypes [tagA] ⟨.info, [.file typesFile .info]⟩ :=
  ⟨⟨by decide, spoilsTypes_both, clear_sample (by decide)⟩, spoilsTypes (by decide +kernel)⟩

theorem generate_last_sample : ∃ o s',
    Gives (generateTags [tagA, tagB]) (tagsSample .initial) o s' ∧
    ∃ done : List (Path × Generator), (done.map (·.1)).Sublist [tagA, tagB] ∧
      o.written = done.map (fun e => (e.1,
        typesSample.parts.map (generatedFile (outputOf ⟨.ofNames []⟩ typesSample) e.2))) ∧
      (∀ e ∈ done, Describes s'.disk .standard "svelte" e.1 e.2) ∧
      ∀ before e after, done = before ++ e :: after →
        ∃ between last rest, e :: after = between ++ last :: rest ∧
          last.2.view.name = e.2.view.name ∧
          (∀ later ∈ rest, later.2.view.name ≠ e.2.view.name) ∧
          ∀ part ∈ typesSample.parts, ∃ t, last.2.render (Template.library none) part = .ok t ∧
            s'.disk.content (generatedFile (outputOf ⟨.ofNames []⟩ typesSample) e.2 part) =
              .ok (.text t) := by
  obtain ⟨o, s', given, -⟩ := spoilsTypes_both
  exact ⟨o, s', given, generate_last rfl (by decide) (clear_sample (by decide)) given⟩

end Sample

end Project

end PropForge
