import PropForge.Proofs.Project.Generate

/-!
# What a file describes

What a component's files are generated from is settled by the disk, the time and the tables, and
finding it out leaves no more than records:

* `sourceAt`, `schemaAt`, `componentAt`: what is in a file, or why there is nothing;
* `result_extractSchema`, `provenance_of_extractSchema`: this is what commands find, and what they note
  of it;
* `run_generateOne_eq`: generating a component is finding it and writing its parts.
-/

namespace PropForge.Project

open TypeScript (Source)

variable {s : Session} {tables : Classification}

/-- The source in a file, or why there is none. -/
def sourceAt (d : Disk) (path : Path) : Except Failure Source :=
  if !d.isThere path then .error (.sourceMissing path.text)
  else match d.content path with
    | .error f => .error (.sourceUnreadable path.text (.disk f))
    | .ok c => match c.exactText with
      | .error f => .error (.sourceUnreadable path.text (.bytes f))
      | .ok text => .ok (Source.ofText (dialectOf path) text)

/-- The schema of the component in a source, or why there is none. -/
def schemaOf (tables : Classification) (asked : Path) (now : Timestamp) (source : Source) :
    Except Failure Schema :=
  match Extraction.contract? tables source with
  | none => .error .noInterface
  | some contract => .ok {
      contract
      implementation := Extraction.implementation source
      state := Extraction.stateUse source
      provenance := ⟨asked.text, now, contract.validate, schemaVersion⟩ }

/-- The schema of the component in a file, or why there is none. -/
def schemaAt (d : Disk) (now : Timestamp) (tables : Classification) (asked : Path) :
    Except Failure Schema :=
  match d.expandHome asked with
  | none => .error .noHome
  | some path => sourceAt d path >>= schemaOf tables asked now

/-- The component that a file describes, or why it describes none. -/
def componentAt (d : Disk) (now : Timestamp) (tables : Classification) (framework : String)
    (file : Path) : Except Failure Generator :=
  match d.expandHome file with
  | none => .error .noHome
  | some asked => do
    let schema ← schemaAt d now tables asked
    (Generator.make tables framework schema).mapError .generator

/-- **Why there is no schema**: a home is not known, or the source cannot be found, read or
understood. -/
theorem error_of_schemaAt {d : Disk} {now : Timestamp} {asked : Path} {f : Failure}
    (h : schemaAt d now tables asked = .error f) :
    (f = .noHome ∧ d.expandHome asked = none) ∨ f.isExtraction = true := by
  unfold schemaAt at h
  cases expanded : d.expandHome asked with
  | none =>
    rw [expanded] at h
    exact .inl ⟨(Except.error.inj h).symm, rfl⟩
  | some path =>
    rw [expanded] at h
    rcases error_of_bind_eq_error h with h | ⟨source, -, h⟩
    · unfold sourceAt at h
      repeat' split at h
      all_goals cases h
      all_goals exact .inr rfl
    · unfold schemaOf at h
      split at h
      · cases h
        exact .inr rfl
      · cases h

/-- The source in a file that holds a text. -/
theorem sourceAt_of_text {d : Disk} {path : Path} {text : String}
    (held : d.content path = .ok (.text text)) :
    sourceAt d path = .ok (Source.ofText (dialectOf path) text) := by
  have there : d.isThere path = true := by
    rw [Disk.isThere, Disk.content_eq_ok_iff_at?.mp held]
    rfl
  rw [sourceAt, there, held]
  rfl

/-- The component that a file with a text describes. -/
theorem componentAt_of_text {d : Disk} {now : Timestamp} {tables : Classification}
    {framework text : String} {file : Path} (plain : d.expandHome file = some file)
    (held : d.content file = .ok (.text text)) :
    componentAt d now tables framework file =
      schemaOf tables file now (.ofText (dialectOf file) text) >>= fun schema =>
        (Generator.make tables framework schema).mapError .generator := by
  rw [componentAt, plain]
  dsimp only
  rw [schemaAt, plain]
  dsimp only
  rw [sourceAt_of_text held]
  rfl

/-- Loading a source gives what is in its file. -/
theorem result_loadSource {asked path : Path} (expanded : s.disk.expandHome asked = some path) :
    ((loadSource asked).run.run s).1 = (sourceAt s.disk path).map (path, ·) := by
  unfold loadSource sourceAt
  rw [run_bind, run_expandHome, expanded]
  dsimp only
  rw [run_bind, run_disk]
  dsimp only
  cases s.disk.isThere path with
  | false => rfl
  | true =>
    simp only [Bool.not_true, Bool.false_eq_true, if_false]
    cases s.disk.content path with
    | error f => rfl
    | ok c =>
      dsimp only
      cases c.exactText with
      | error f => rfl
      | ok text =>
        dsimp only
        rw [run_bind, run_pure]
        dsimp only
        cases (Source.ofText (dialectOf path) text).isBroken <;> rfl

theorem result_describe (path : Path) (source : Source) (s : Session) :
    ((describe path tables source).run.run s).1 =
      match Extraction.contract? tables source with
      | none => .error .noInterface
      | some contract => .ok contract := by
  have noted : ((noteChoice path source).run.run s).1 = .ok () := by
    unfold noteChoice
    dsimp only
    split <;> rfl
  unfold describe
  rw [result_bind, noted]
  dsimp only
  cases Extraction.contract? tables source <;> rfl

/-- **A schema** is made of what is on the disk, of the time and of the tables. -/
theorem result_extractSchema (asked : Path) (s : Session) :
    ((extractSchema asked tables).run.run s).1 = schemaAt s.disk s.now tables asked := by
  unfold extractSchema schemaAt
  rw [run_bind]
  cases expanded : s.disk.expandHome asked with
  | none =>
    unfold loadSource
    rw [run_bind, run_expandHome, expanded]
  | some path =>
    have load := result_loadSource expanded
    dsimp only
    cases found : sourceAt s.disk path with
    | error f =>
      rw [found] at load
      rw [← Prod.eta ((loadSource asked).run.run s), load]
      rfl
    | ok source =>
      rw [found] at load
      obtain ⟨s₁, loaded, load⟩ := (recording_loadSource asked).run_eq load
      have described : ((describe path tables source).run.run s₁).1 = _ :=
        result_describe path source s₁
      rw [load]
      dsimp only
      rw [run_bind]
      change _ = schemaOf tables asked s.now source
      unfold schemaOf
      cases found : Extraction.contract? tables source with
      | none =>
        rw [found] at described
        rw [← Prod.eta ((describe path tables source).run.run s₁), described]
      | some contract =>
        rw [found] at described
        obtain ⟨s₂, noted, describe⟩ := (recording_describe path source).run_eq described
        have now := (loaded.trans noted).continues.now
        rw [describe, ← now]
        exact result_noted (fun w : Issue => s!"{w.code}: {w.message}") (fun now => {
          contract
          implementation := Extraction.implementation source
          state := Extraction.stateUse source
          provenance := ⟨asked.text, now, contract.validate, schemaVersion⟩ : Schema }) s₂

/-- The record of which source is looked at. -/
def extractingNote (asked : Path) : LogRecord :=
  ⟨.debug, LogRecord.loggerName "orchestrator", s!"Extracting schema from {asked.text}"⟩

/-- Generating a component, once it is known which source is looked at. -/
theorem run_generateOne_of_expanded (p : Project) (settings : Settings) (run : GenerateSettings)
    {file asked : Path} (expanded : s.disk.expandHome file = some asked) :
    ∃ between, Recorded (s.emit (extractingNote asked)) between ∧
      (p.generateOne settings run file).run.run s =
        match componentAt (s.emit (extractingNote asked)).disk (s.emit (extractingNote asked)).now
          settings.classification run.framework file with
        | .error f => (.error f, between)
        | .ok g =>
          (writeParts ((run.outputDir.getD (p.root.child "generated")).child g.view.name)
            settings.templatesDir g run.parts).run.run between := by
  unfold generateOne sourceOf
  rw [run_bind, run_bind, run_expandHome, expanded]
  have noted := recording_log .debug "orchestrator" s!"Extracting schema from {asked.text}" s
  let start := s.emit (extractingNote asked)
  change Recorded s start at noted
  have asks : start.disk.expandHome file = some asked :=
    (Disk.expandHome_of_home noted.continues.kept.home file).trans expanded
  rw [componentAt, asks]
  dsimp only
  have result : ((extractSchema asked settings.classification).run.run start).1 = _ :=
    result_extractSchema asked start
  have quiet : Recording (extractSchema asked settings.classification) :=
    recording_extractSchema asked
  change ∃ between, _ ∧ (extractSchema asked settings.classification >>= _).run.run start = _
  rw [run_bind]
  cases found : schemaAt start.disk start.now settings.classification asked with
  | error f =>
    rw [found] at result
    refine ⟨_, quiet start, ?_⟩
    rw [← Prod.eta ((extractSchema asked settings.classification).run.run start), result]
    rfl
  | ok schema =>
    rw [found] at result
    obtain ⟨between, extracted, extract⟩ := quiet.run_eq result
    refine ⟨between, extracted, ?_⟩
    rw [extract]
    dsimp only
    unfold generatorFor
    cases made : Generator.make settings.classification run.framework schema with
    | error r =>
      change _ = match (Generator.make settings.classification run.framework schema).mapError
        Failure.generator with | .error f => _ | .ok g => _
      rw [made]
      rfl
    | ok g =>
      change _ = match (Generator.make settings.classification run.framework schema).mapError
        Failure.generator with | .error f => _ | .ok g => _
      rw [made, run_bind]
      obtain ⟨name, -, identifier, -⟩ := Generator.name_of_make made
      have file := Naming.isFileName_of_isIdentifier identifier
      dsimp only
      rw [Path.join_of_isFileName file, ← name]
      rfl

/-- Generating a component that is described is writing its parts, after records. -/
theorem run_generateOne_of_component (p : Project) (settings : Settings) (run : GenerateSettings)
    {file asked : Path} {g : Generator} {s : Session} (expanded : s.disk.expandHome file = some asked)
    (found : componentAt (s.emit (extractingNote asked)).disk (s.emit (extractingNote asked)).now
      settings.classification run.framework file = .ok g) :
    ∃ between, Recorded (s.emit (extractingNote asked)) between ∧
      (p.generateOne settings run file).run.run s =
        (writeParts ((run.outputDir.getD (p.root.child "generated")).child g.view.name)
          settings.templatesDir g run.parts).run.run between := by
  obtain ⟨between, looked, ran⟩ := run_generateOne_of_expanded p settings run expanded
  rw [found] at ran
  exact ⟨between, looked, ran⟩

/-- **Generating a component** is describing it, with no more than records, and writing its parts. -/
theorem run_generateOne_eq (p : Project) (settings : Settings) (run : GenerateSettings)
    (file : Path) (s : Session) :
    ∃ start between, Recorded s start ∧ Recorded start between ∧
      (p.generateOne settings run file).run.run s =
        match componentAt start.disk start.now settings.classification run.framework file with
        | .error f => (.error f, between)
        | .ok g =>
          (writeParts ((run.outputDir.getD (p.root.child "generated")).child g.view.name)
            settings.templatesDir g run.parts).run.run between := by
  cases expanded : s.disk.expandHome file with
  | none =>
    refine ⟨s, s, .refl s, .refl s, ?_⟩
    unfold generateOne sourceOf
    rw [run_bind, run_bind, run_expandHome, expanded, componentAt, expanded]
  | some asked =>
    obtain ⟨between, looked, ran⟩ := run_generateOne_of_expanded p settings run expanded
    have noted := recording_log .debug "orchestrator" s!"Extracting schema from {asked.text}" s
    exact ⟨_, between, noted, looked, ran⟩

theorem holdsSource_of_sourceAt {d : Disk} {path : Path} {source : Source}
    (h : sourceAt d path = .ok source) : HoldsSource d path source := by
  unfold sourceAt at h
  split at h
  · cases h
  split at h
  · cases h
  rename_i c held
  split at h
  · cases h
  rename_i text exact
  exact ⟨c, text, held, exact, (Except.ok.inj h).symm⟩

/-- A schema notes what it was asked for, the time and whether it is valid. -/
theorem provenance_of_extractSchema {asked : Path} {schema : Schema} {s' : Session}
    (h : Gives (extractSchema asked tables) s schema s') :
    schema.provenance = ⟨asked.text, s.now, schema.contract.validate, schemaVersion⟩ := by
  have found : ((extractSchema asked tables).run.run s).1 = _ := result_extractSchema asked s
  rw [show (extractSchema asked tables).run.run s = _ from h] at found
  unfold schemaAt at found
  split at found
  · cases found
  · obtain ⟨source, -, described⟩ := exists_of_bind_eq_ok found.symm
    unfold schemaOf at described
    split at described <;> cases described
    rfl

end PropForge.Project
