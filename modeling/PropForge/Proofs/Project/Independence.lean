import PropForge.Proofs.Project.Write

/-!
# Components of a batch do not depend on each other

* `Untouched`: what a batch does not reach of the disk;
* `Underway.generateOne`: after others of its batch, a component ends as it would end at first;
* `Outcome.ofResults`: what is reported of files whose results are known;
* `generate_independent`: what is reported of a file in a batch is what is reported of it alone.
-/

namespace PropForge.Project

variable {p : Project} {settings : Settings} {run : GenerateSettings} {s s' s'' : Session}
  {tables : Classification} {framework : String} {file output directory : Path}

section Component

/-- What is asked for and is not disturbed by what is generated: it does not begin with a home, the
log is not written to it, it does not lead through the directory for what is generated, nor through
one that is made because that directory is in it. -/
structure Untouched (output : Path) (s : Session) (file : Path) : Prop where
  plain : s.disk.expandHome file = some file
  unlogged : ¬ LoggedTo s (s.disk.absolute file).names
  outside : s.disk.Avoids file (s.disk.absolute output).names
  unmade : (s.disk.makeDirectories output).1.isThere file = true → s.disk.isThere file = true

/-- What is at a path stays there, and nothing comes there. -/
theorem Reached.isThere_eq (h : Reached output s.disk s'.disk) (untouched : Untouched output s file) :
    s'.disk.isThere file = s.disk.isThere file := by
  rcases h with same | ⟨made, prepared, below⟩
  · exact Disk.isThere_congr same file
  · have kept := Disk.kept_makeDirectories s.disk output
    have unmade := untouched.unmade
    rw [prepared] at kept unmade
    have outside := untouched.outside
    unfold Disk.Avoids at outside
    simp only [← Disk.absolute_of_here kept.here] at outside
    rw [below.isThere_eq ?_ outside, Bool.eq_iff_iff]
    · refine ⟨unmade, fun there => ?_⟩
      exact Disk.isThere_of_kept kept not_false there
    · rintro q (⟨name, n, rfl⟩ | ⟨name, rfl⟩) <;> exact List.prefix_append _ _

/-- A session in the course of a batch. -/
structure Underway (output : Path) (s s' : Session) : Prop where
  continues : Continues (Touchable output s) s s'
  reached : Reached output s.disk s'.disk

theorem Underway.refl (output : Path) (s : Session) : Underway output s s :=
  ⟨.refl _ s, .inl (.refl s.disk)⟩

theorem Underway.recorded (h : Underway output s s') (noted : Recorded s' s'') :
    Underway output s s'' where
  continues := h.continues.trans_logged (fun _ => .inl) noted.continues
  reached := h.reached.sameShape noted.sameShape

/-- A file describes what it described at first. -/
theorem Underway.componentAt_eq (h : Underway output s s') (untouched : Untouched output s file) :
    componentAt s'.disk s'.now tables framework file =
      componentAt s.disk s.now tables framework file := by
  have there := h.reached.isThere_eq untouched
  have apart : ¬ Touchable output s (s.disk.absolute file).names :=
    not_or.mpr ⟨untouched.unlogged,
      untouched.outside _ (List.mem_inits _ _ |>.mpr (List.prefix_refl _))⟩
  have source : sourceAt s'.disk file = sourceAt s.disk file := by
    unfold sourceAt
    rw [there]
    cases found : s.disk.isThere file with
    | false => rfl
    | true => rw [Disk.content_eq_of_kept h.continues.kept apart found]
  have plain : s'.disk.expandHome file = some file :=
    (Disk.expandHome_of_home h.continues.kept.home file).trans untouched.plain
  simp only [componentAt, schemaAt, plain, untouched.plain, source, h.continues.now]

/-- How generating a component ends, by what there is at first. -/
def resultAt (p : Project) (settings : Settings) (run : GenerateSettings) (s : Session)
    (file : Path) : Except Failure (List Path) := do
  let g ← componentAt s.disk s.now settings.classification run.framework file
  writeResult s.disk ((outputOf p run).child g.view.name) (run.parts.map g.fileName)

/-- Making the directory for what is generated succeeds or makes nothing. -/
def Whole (output : Path) (d : Disk) : Prop :=
  (d.makeDirectories output).2 ≠ none → (d.makeDirectories output).1 = d

/-- **One component** of a batch ends as it would end at first. -/
theorem Underway.generateOne (h : Underway (outputOf p run) s s')
    (bundled : settings.templatesDir = none) (whole : Whole (outputOf p run) s.disk)
    (untouched : Untouched (outputOf p run) s file) :
    ((p.generateOne settings run file).run.run s').1 = p.resultAt settings run s file ∧
      Underway (outputOf p run) s ((p.generateOne settings run file).run.run s').2 := by
  obtain ⟨start, between, noted, looked, ran⟩ := run_generateOne_eq p settings run file s'
  have before := (h.recorded noted).recorded looked
  rw [(h.recorded noted).componentAt_eq untouched, bundled] at ran
  rw [ran]
  unfold resultAt
  cases found : componentAt s.disk s.now settings.classification run.framework file with
  | error f => exact ⟨rfl, before⟩
  | ok g =>
    obtain ⟨schema, made⟩ := (describes_of_componentAt found).made
    obtain ⟨rest, parts⟩ := parts_eq run
    have wanted : run.parts ≠ [] := by simp [parts]
    obtain ⟨result, reached⟩ := before.reached.writeParts whole (isFileName_view made)
      (g.isFileName_fileName made) wanted
    have confined : Confined (Within (outputOf p run) g between)
        (writeParts ((outputOf p run).child g.view.name) none g run.parts) between :=
      confined_component made
    have touched := confined fun _ => .inl
    refine ⟨result, before.continues.trans (touched.mono fun q hit => ?_), reached⟩
    exact (touchable_iff before.continues q).mp hit.touchable

end Component

section Batch

variable {todo : List Path}

/-- If a file describes no component, it begins with a home that is not known, its source cannot be
used or there is no generator for it. -/
theorem error_of_componentAt {d : Disk} {now : Timestamp} {f : Failure}
    (h : componentAt d now tables framework file = .error f) :
    (f = .noHome ∧ d.sourcePath? file = none) ∨ f.isExtraction = true ∨ ∃ r, f = .generator r := by
  unfold componentAt at h
  unfold Disk.sourcePath?
  cases expanded : d.expandHome file with
  | none =>
    rw [expanded] at h
    exact .inl ⟨(Except.error.inj h).symm, rfl⟩
  | some asked =>
    rw [expanded] at h
    rcases error_of_bind_eq_error h with h | ⟨schema, -, h⟩
    · rcases error_of_schemaAt h with unknown | early
      · exact .inl unknown
      · exact .inr (.inl early)
    · cases made : Generator.make tables framework schema with
      | error r =>
        rw [made] at h
        exact .inr (.inr ⟨r, (Except.error.inj h).symm⟩)
      | ok g =>
        rw [made] at h
        cases h

/-- If no home has to be known, its source cannot be used or there is no generator for it. -/
theorem failure_of_componentAt {d : Disk} {now : Timestamp} {f : Failure}
    (plain : d.expandHome file = some file)
    (h : componentAt d now tables framework file = .error f) :
    f.isExtraction = true ∨ ∃ r, f = .generator r := by
  refine (error_of_componentAt h).resolve_left ?_
  rintro ⟨-, unknown⟩
  rw [Disk.sourcePath?, plain, Option.bind_some, plain] at unknown
  cases unknown

theorem failure_of_writeResult {d : Disk} {names : List String} {f : Failure}
    (h : writeResult d directory names = .error f) : ∃ fault, f = .disk fault := by
  unfold writeResult filesResult at h
  repeat' split at h
  all_goals cases h
  all_goals exact ⟨_, rfl⟩

/-- A batch goes on after what keeps a component from being generated. -/
theorem isTolerated_of_resultAt {f : Failure} (plain : s.disk.expandHome file = some file)
    (h : p.resultAt settings run s file = .error f) : isTolerated f = true := by
  unfold isTolerated
  rcases error_of_bind_eq_error h with h | ⟨g, -, h⟩
  · rcases failure_of_componentAt plain h with early | ⟨r, rfl⟩
    · rw [early]
      rfl
    · rfl
  · obtain ⟨fault, rfl⟩ := failure_of_writeResult h
    rfl

/-- What is reported after one more component. -/
def Outcome.add (o : Outcome) (file : Path) : Except Failure (List Path) → Outcome
  | .ok paths => { o with written := Assoc.put file paths o.written }
  | .error f => { o with failures := Assoc.put file f.message o.failures }

/-- What is reported of files whose results are known. -/
def Outcome.ofResults (result : Path → Except Failure (List Path)) (files : List Path) : Outcome :=
  files.foldl (fun o file => o.add file (result file)) ⟨[], []⟩

/-- A component that is generated is reported as written. -/
theorem gives_generateStep_ok {paths : List Path} (o : Outcome)
    (ran : (p.generateOne settings run file).run.run s = (.ok paths, s')) :
    Gives (p.generateStep settings run o file) s (o.add file (.ok paths)) s' :=
  gives_bind_iff.mpr ⟨_, _, gives_attempt_iff.mpr ran, rfl⟩

/-- What the log says of a component that was not generated. -/
def failureRecord (file : Path) (f : Failure) : LogRecord :=
  ⟨.error, LogRecord.loggerName "orchestrator", s!"Failed to generate {file.text}: {f.message}"⟩

/-- A component that is not generated is reported, if that is tolerated. -/
theorem gives_generateStep_error {f : Failure} (o : Outcome)
    (ran : (p.generateOne settings run file).run.run s = (.error f, s'))
    (tolerated : isTolerated f = true) :
    Gives (p.generateStep settings run o file) s (o.add file (.error f))
      (s'.emit (failureRecord file f)) := by
  refine gives_bind_iff.mpr ⟨_, _, gives_attempt_iff.mpr ran, ?_⟩
  dsimp only
  rw [tolerated]
  rfl

/-- **One step** of a batch reports how its component would end at first. -/
theorem Underway.generateStep (h : Underway (outputOf p run) s s')
    (bundled : settings.templatesDir = none) (whole : Whole (outputOf p run) s.disk)
    (untouched : Untouched (outputOf p run) s file) (o : Outcome) :
    ∃ s'', Gives (p.generateStep settings run o file) s' (o.add file (p.resultAt settings run s file))
      s'' ∧ Underway (outputOf p run) s s'' := by
  obtain ⟨result, after⟩ := h.generateOne bundled whole untouched
  have ended : (p.generateOne settings run file).run.run s' =
      (p.resultAt settings run s file, ((p.generateOne settings run file).run.run s').2) :=
    Prod.ext result rfl
  cases found : p.resultAt settings run s file with
  | ok paths =>
    rw [found] at ended
    exact ⟨_, gives_generateStep_ok o ended, after⟩
  | error f =>
    rw [found] at ended
    refine ⟨_, gives_generateStep_error o ended (isTolerated_of_resultAt untouched.plain found),
      after.recorded ?_⟩
    exact recording_log .error "orchestrator" s!"Failed to generate {file.text}: {f.message}" _

/-- **All steps** of a batch. -/
theorem Underway.generateSteps (h : Underway (outputOf p run) s s')
    (bundled : settings.templatesDir = none) (whole : Whole (outputOf p run) s.disk)
    (untouched : ∀ file ∈ todo, Untouched (outputOf p run) s file) (o : Outcome) :
    ∃ s'', Gives (todo.foldlM (p.generateStep settings run) o) s'
      (todo.foldl (fun o file => o.add file (p.resultAt settings run s file)) o) s'' ∧
      Underway (outputOf p run) s s'' := by
  induction todo generalizing o s' with
  | nil => exact ⟨s', gives_pure_iff.mpr ⟨rfl, rfl⟩, h⟩
  | cons file todo ih =>
    obtain ⟨first, rest⟩ := List.forall_mem_cons.mp untouched
    obtain ⟨between, step, after⟩ := h.generateStep bundled whole first o
    obtain ⟨s'', steps, last⟩ := ih after rest (o.add file (p.resultAt settings run s file))
    refine ⟨s'', ?_, last⟩
    rw [List.foldlM_cons, List.foldl_cons]
    exact gives_bind_iff.mpr ⟨_, between, step, steps⟩

/-- A batch reports of its files how each of them would end at first. -/
theorem gives_generate (files : List Path) (bundled : settings.templatesDir = none)
    (whole : Whole (outputOf p run) s.disk)
    (untouched : ∀ file ∈ files, Untouched (outputOf p run) s file) :
    ∃ s', Gives (p.generate settings run files) s
      (Outcome.ofResults (p.resultAt settings run s) files) s' := by
  obtain ⟨between, steps, -⟩ :=
    (Underway.refl (outputOf p run) s).generateSteps bundled whole untouched ⟨[], []⟩
  exact ⟨_, gives_bind_iff.mpr ⟨_, between, steps, rfl⟩⟩

/-- Why a component was not generated. -/
def failure? (result : Path → Except Failure (List Path)) (file : Path) : Option String :=
  match result file with
  | .ok _ => none
  | .error f => some f.message

theorem Outcome.ofResults_eq (result : Path → Except Failure (List Path)) (files : List Path) :
    Outcome.ofResults result files =
      ⟨Assoc.ofList (files.filterMap fun file => (result file).toOption.map (file, ·)),
        Assoc.ofList (files.filterMap fun file => (failure? result file).map (file, ·))⟩ := by
  unfold Outcome.ofResults
  induction files using List.reverseRecOn with
  | nil => rfl
  | append_singleton files file ih =>
    rw [List.foldl_append, ih]
    unfold Assoc.ofList
    rw [List.foldl_cons, List.foldl_nil, List.filterMap_append, List.filterMap_append,
      List.foldl_append, List.foldl_append, List.filterMap_cons, List.filterMap_cons, failure?]
    cases result file <;> rfl

/-- A file is reported as written if it is one of them and its result is that. -/
theorem Outcome.get?_written (result : Path → Except Failure (List Path)) (files : List Path)
    (file : Path) : Assoc.get? file (Outcome.ofResults result files).written =
      if file ∈ files then (result file).toOption else none := by
  rw [ofResults_eq]
  exact Assoc.get?_ofList_filterMap (fun file => (result file).toOption) files file

theorem Outcome.get?_failures (result : Path → Except Failure (List Path)) (files : List Path)
    (file : Path) : Assoc.get? file (Outcome.ofResults result files).failures =
      if file ∈ files then failure? result file else none := by
  rw [ofResults_eq]
  exact Assoc.get?_ofList_filterMap (failure? result) files file

end Batch

section Sample

/-- A component without more, in a directory. -/
def bareSample (output : Path) : GenerateSettings :=
  { typesSample with
    outputDir := some output
    includeTypes := false }

def generateBare (output : Path) (files : List Path) : Action Outcome :=
  generate ⟨.ofNames []⟩ (.standard (.ofNames [])) (bareSample output) files

/-- What is reported of a file. -/
def Outcome.entry (o : Outcome) (file : Path) : Option (List Path) × Option String :=
  (Assoc.get? file o.written, Assoc.get? file o.failures)

/-- None of these files begins with a home or leads into the directory for what is generated, and
what is reported of one of them is not what is reported of it alone. -/
def Misreported (output : Path) (files : List Path) (s : Session) : Prop :=
  (∀ file ∈ files, s.disk.expandHome file = some file ∧
    s.disk.Avoids file (s.disk.absolute output).names) ∧
  ∃ file ∈ files, ∃ o s' alone after, Gives (generateBare output files) s o s' ∧
    Gives (generateBare output [file]) s alone after ∧ o.entry file ≠ alone.entry file

theorem misreported {output : Path} {files : List Path} {s : Session} (file : Path)
    {one other : Option (List Path) × Option String} (different : one ≠ other)
    (apart : ∀ file ∈ files, s.disk.expandHome file = some file ∧
      s.disk.Avoids file (s.disk.absolute output).names) (mem : file ∈ files)
    (batch : ((generateBare output files).run.run s).1.toOption.map (·.entry file) = some one)
    (single : ((generateBare output [file]).run.run s).1.toOption.map (·.entry file) = some other) :
    Misreported output files s := by
  obtain ⟨o, s', given, rfl⟩ := exists_gives batch
  obtain ⟨alone, after, given', rfl⟩ := exists_gives single
  exact ⟨apart, file, mem, o, s', alone, after, given, given', different⟩

/-- The first of the sources, by a way that does not exist at first. -/
def aroundTag : Path := .ofText "x/../a/Tag.ts"

/-- A source at a path that ends a comment. -/
def starTag : Path := .ofText "*/Tag.ts"

/-- A path that ends a comment, has an interface and begins a comment. -/
def closing : Path := .ofText "*/interface TagProps\x7b\x7d/*"

/-- The beginning of a comment, after which records are written. -/
def commentSample : Session :=
  { tagsSample (logTo starTag) with
    disk.tree := .directory [("*", .directory [("Tag.ts", .file (.text "/*"))])] }

/-- Generating a component without more. -/
def generateBareTag (file : Path) : Action (List Path) :=
  generateOne ⟨.ofNames []⟩ (.standard (.ofNames [])) (bareSample (.ofText "generated")) file

/-- Why the first component of the batch is not generated. -/
def unclosed : Failure := .sourceMissing closing.text

/-- The session when the second one is looked at. -/
def closedSample : Session :=
  (commentSample.emit (extractingNote closing)).emit (failureRecord closing unclosed)

/-- What the file holds then: the path in the records ends the comment. -/
def closedText : String :=
  "/*" ++ (extractingNote closing).fileLine commentSample.now ++
    (failureRecord closing unclosed).fileLine commentSample.now ++
      (extractingNote starTag).fileLine commentSample.now

theorem content_closedSample :
    (closedSample.emit (extractingNote starTag)).disk.content starTag = .ok (.text closedText) := by
  let s₁ := commentSample.emit (extractingNote closing)
  have dir : commentSample.disk.isDirectory starTag.parent = true := rfl
  have dir₁ : s₁.disk.isDirectory starTag.parent = true :=
    Disk.isDirectory_of_kept (continues_emit commentSample _).kept dir
  have dir₂ : closedSample.disk.isDirectory starTag.parent = true :=
    Disk.isDirectory_of_kept (continues_emit s₁ _).kept dir₁
  have held : commentSample.disk.content starTag = .ok (.text "/*") := rfl
  have own (severity : Severity) (message : String) :
      LogRecord.isOwn ⟨severity, LogRecord.loggerName "orchestrator", message⟩ = true :=
    LogRecord.isOwn_of_plain (by simp) severity message
  have held₁ : s₁.disk.content starTag = _ := content_emit_of_file (own _ _) rfl rfl rfl dir held
  have held₂ : closedSample.disk.content starTag = _ :=
    content_emit_of_file (own _ _) rfl rfl rfl dir₁ held₁
  exact content_emit_of_file (own _ _) rfl rfl rfl dir₂ held₂

theorem componentAt_closedSample : ∃ g,
    componentAt (closedSample.emit (extractingNote starTag)).disk commentSample.now .standard "svelte"
      starTag = .ok g ∧ g.view.name = "Tag" ∧
    (bareSample (.ofText "generated")).parts.map g.fileName = ["tag.svelte"] := by
  have seen : ((schemaOf .standard starTag commentSample.now (.ofText .plain closedText) >>=
      fun schema => (Generator.make .standard "svelte" schema).mapError Failure.generator).toOption.map
        fun g => (g.view.name, (bareSample (.ofText "generated")).parts.map g.fileName)) =
      some ("Tag", ["tag.svelte"]) := by
    -- the characters of the records are known before they are read
    unfold TypeScript.Source.ofText closedText LogRecord.fileLine extractingNote failureRecord unclosed
    simp only [String.toList_append, toString]
    decide +kernel
  obtain ⟨g, made, names⟩ := Option.map_eq_some_iff.mp seen
  obtain ⟨name, files⟩ := Prod.mk.inj names
  refine ⟨g, ?_, name, files⟩
  have plain : dialectOf starTag = .plain := by decide
  rw [componentAt_of_text rfl content_closedSample, plain]
  exact ok_of_toOption made

theorem generateBareTag_closedSample : ∃ s',
    (generateBareTag starTag).run.run closedSample = (.ok [.ofText "generated/Tag/tag.svelte"], s') := by
  obtain ⟨g, found, name, files⟩ := componentAt_closedSample
  have expanded : closedSample.disk.expandHome starTag = some starTag := rfl
  obtain ⟨between, looked, ran⟩ := run_generateOne_of_component ⟨.ofNames []⟩
    (.standard (.ofNames [])) (bareSample (.ofText "generated")) expanded found
  have noted : Recorded commentSample (closedSample.emit (extractingNote starTag)) :=
    ⟨[extractingNote closing, failureRecord closing unclosed, extractingNote starTag], rfl⟩
  have reached : Reached (.ofText "generated") commentSample.disk between.disk :=
    .inl (noted.trans looked).sameShape
  obtain ⟨schema, made⟩ := (describes_of_componentAt found).made
  have wanted : (bareSample (.ofText "generated")).parts ≠ [] := by decide
  obtain ⟨result, -⟩ := reached.writeParts (fun fault => absurd (by decide) fault)
    (isFileName_view made) (g.isFileName_fileName made) wanted
  rw [files, name] at result
  have written : writeResult commentSample.disk ((Path.ofText "generated").child "Tag") ["tag.svelte"] =
      .ok [.ofText "generated/Tag/tag.svelte"] := by decide +kernel
  rw [written, ← name] at result
  exact ⟨_, Prod.ext ((congrArg Prod.fst ran).trans result) rfl⟩

theorem generate_closing :
    ((generateBare (.ofText "generated") [closing, starTag]).run.run commentSample).1.toOption.map
      (·.entry starTag) = some (some [.ofText "generated/Tag/tag.svelte"], none) := by
  have failed : (generateBareTag closing).run.run commentSample =
    (.error unclosed, commentSample.emit (extractingNote closing)) := rfl
  obtain ⟨s', written⟩ := generateBareTag_closedSample
  have first := gives_generateStep_error ⟨[], []⟩ failed rfl
  have second := gives_generateStep_ok (Outcome.add ⟨[], []⟩ closing (.error unclosed)) written
  have steps : Gives ([closing, starTag].foldlM _ _) commentSample _ s' :=
    gives_bind_iff.mpr ⟨_, _, first, gives_bind_iff.mpr ⟨_, _, second, gives_pure_iff.mpr ⟨rfl, rfl⟩⟩⟩
  have given : Gives (generateBare (.ofText "generated") [closing, starTag]) commentSample _ _ :=
    gives_bind_iff.mpr ⟨_, s', steps, gives_bind_iff.mpr ⟨(), _, gives_log_iff.mpr rfl,
      gives_pure_iff.mpr ⟨rfl, rfl⟩⟩⟩
  rw [given]
  rfl

end Sample

end PropForge.Project
