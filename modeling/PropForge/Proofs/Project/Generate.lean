import PropForge.Project.Generate
import PropForge.Proofs.Component.Tables
import PropForge.Proofs.File.Path
import PropForge.Proofs.Project.Extract
import PropForge.Proofs.Template.Library
import PropForge.Proofs.Template.Shape

/-!
# What generating writes

* `gives_renderPart_iff`, `gives_generatorFor_iff`: rendering changes nothing;
* `writeInto_spec`: one file is written and the log;
* `writeParts_rendered`: each part is written as its template gives it at its turn;
* `generateOne_spec`: the component's own file holds the text of its template.
-/

namespace PropForge

theorem Framework.eq_of_name {f f' : Framework} (h : f.name = f'.name) : f = f' := by
  revert h
  cases f <;> cases f' <;> decide

theorem Framework.ofName?_name (f : Framework) : ofName? f.name = some f := by
  cases f <;> decide

namespace Generator

variable {tables : Classification} {framework : String} {schema : Schema} {g : Generator}

theorem make_eq_ok (h : make tables framework schema = .ok g) :
    Framework.ofName? framework = some g.framework ∧
      ComponentView.ofSchema tables schema = .ok g.view := by
  unfold make at h
  split at h
  · cases h
  · rename_i f named
    split at h
    · cases h
    · rename_i view made
      cases h
      exact ⟨named, made⟩

theorem make_reclassified (h : make tables framework schema = .ok g) (other : Classification) :
    make other framework schema = .ok { g with view := g.view.reclassified other } := by
  obtain ⟨named, made⟩ := make_eq_ok h
  rw [make, named]
  dsimp only
  rw [ComponentView.ofSchema_reclassified made other]

/-- What a generator shows of a schema is its contract, its implementation and its state. -/
theorem make_congr {schema' : Schema} (contract : schema'.contract = schema.contract)
    (implementation : schema'.implementation = schema.implementation)
    (state : schema'.state = schema.state) :
    make tables framework schema' = make tables framework schema := by
  unfold make ComponentView.ofSchema
  rw [contract, implementation, state]

theorem name_of_make (h : make tables framework schema = .ok g) :
    g.view.name = schema.contract.componentName ∧
      g.view.nameLower = Text.lower schema.contract.componentName ∧
      Naming.isIdentifier schema.contract.componentName = true ∧ g.framework.name = framework := by
  obtain ⟨named, made⟩ := make_eq_ok h
  unfold ComponentView.ofSchema at made
  dsimp only at made
  split at made
  · cases made
  · rename_i identifier
    rw [Bool.not_eq_true', Bool.not_eq_false] at identifier
    rw [← Except.ok.inj made]
    have chosen := List.find?_some (show Framework.all.find? _ = _ from named)
    exact ⟨rfl, rfl, identifier, of_decide_eq_true chosen⟩

/-- **What is refused**: a framework that there is none of, or else a name that is no identifier. -/
theorem make_eq_error_iff {r : Refusal} : make tables framework schema = .error r ↔
    (Framework.ofName? framework = none ∧ r = .unsupportedFramework framework) ∨
      ∃ f, Framework.ofName? framework = some f ∧
        Naming.isIdentifier schema.contract.componentName = false ∧
        r = .view (.badName schema.contract.componentName) := by
  unfold make
  cases Framework.ofName? framework with
  | none =>
    constructor
    · intro h
      exact .inl ⟨rfl, (Except.error.inj h).symm⟩
    · rintro (⟨-, rfl⟩ | ⟨f, some, -⟩)
      · rfl
      · cases some
  | some f =>
    dsimp only
    constructor
    · intro h
      cases view : ComponentView.ofSchema tables schema with
      | error refused =>
        obtain ⟨bad, rfl⟩ := ComponentView.ofSchema_eq_error_iff.mp view
        rw [view] at h
        exact .inr ⟨f, rfl, bad, (Except.error.inj h).symm⟩
      | ok v =>
        rw [view] at h
        cases h
    · rintro (⟨none, -⟩ | ⟨f', -, bad, rfl⟩)
      · cases none
      · rw [ComponentView.ofSchema_eq_error_iff.mpr ⟨bad, rfl⟩]

/-- **A component has a generator** if its name is an identifier. -/
theorem exists_make_iff {f : Framework} : (∃ g, make tables f.name schema = .ok g) ↔
    Naming.isIdentifier schema.contract.componentName = true := by
  constructor
  · rintro ⟨g, made⟩
    exact (name_of_make made).2.2.1
  · intro named
    cases made : make tables f.name schema with
    | ok g => exact ⟨g, rfl⟩
    | error r =>
      rcases make_eq_error_iff.mp made with ⟨none, -⟩ | ⟨f', -, bad, -⟩
      · rw [f.ofName?_name] at none
        cases none
      · rw [named] at bad
        cases bad

/-- The settings of a framework are not called like a file of the component, which ends otherwise. -/
theorem configFile_ne (framework : Framework) (lower : String) {ending : String}
    (long : 2 ≤ ending.toList.reverse.length) (ends : ending.toList.reverse.take 2 ≠ ['s', 'j']) :
    framework.configFile ≠ lower ++ ending := by
  intro same
  have last := congrArg (fun s : String => s.toList.reverse.take 2) same
  rw [String.toList_append, List.reverse_append, List.take_append_of_le_length long] at last
  refine ends (last.symm.trans ?_)
  cases framework <;> decide

theorem wanted_sublist (choices : List (Bool × Part)) :
    (choices.filterMap fun (wanted, part) => if wanted then some part else none).Sublist
      (choices.map (·.2)) := by
  induction choices with
  | nil => exact .slnil
  | cons choice choices ih =>
    obtain ⟨wanted, part⟩ := choice
    cases wanted with
    | true => exact ih.cons_cons part
    | false => exact ih.cons part

/-- The files that are generated from a component have different names. -/
theorem nodup_fileNames (g : Generator) (run : GenerateSettings) :
    (run.parts.map g.fileName).Nodup := by
  refine ((wanted_sublist _).map g.fileName).nodup ?_
  simp only [List.map_cons, List.map_nil, fileName, Part.fileName, String.append_assoc]
  generalize g.view.nameLower = lower
  generalize g.framework = framework
  have ne {a b : String} (h : a ≠ b) : lower ++ a ≠ lower ++ b :=
    fun same => h ((String.append_right_inj _).mp same)
  have config {a : String} (long : 2 ≤ a.toList.reverse.length)
      (ends : a.toList.reverse.take 2 ≠ ['s', 'j']) : lower ++ a ≠ framework.configFile :=
    (configFile_ne framework lower long ends).symm
  simp only [List.nodup_cons, List.mem_cons, List.not_mem_nil, or_false, not_or]
  refine ⟨?component, ⟨ne (by decide), ne (by decide), ne (by decide), ?types, ne (by decide)⟩,
    ⟨ne (by decide), ne (by decide), ?tests, ne (by decide)⟩,
    ⟨ne (by decide), ?stories, ne (by decide)⟩, ⟨?documentation, ne (by decide)⟩,
    configFile_ne framework lower (by decide) (by decide), not_false, List.nodup_nil⟩
  case component =>
    cases framework <;>
      exact ⟨ne (by decide), ne (by decide), ne (by decide), ne (by decide),
        config (by decide) (by decide), ne (by decide)⟩
  all_goals exact config (by decide) (by decide)

theorem isFileName_fileName (h : make tables framework schema = .ok g) (part : Part) :
    IsFileName (g.fileName part) := by
  obtain ⟨-, lower, identifier, -⟩ := name_of_make h
  unfold fileName
  rw [lower]
  generalize g.framework = framework
  cases part with
  | config =>
    rw [Part.fileName]
    cases framework <;> exact isFileName_of_long (by decide) (by decide)
  | component =>
    rw [Part.fileName, String.append_assoc]
    cases framework <;> exact isFileName_of_ending identifier (by decide) (by decide)
  | _ => exact isFileName_of_ending identifier (by decide) (by decide)

end Generator

namespace Project

variable {s s' : Session} {dir? : Option Path} {g : Generator} {part : Part}

theorem gives_renderPart_iff {t : String} : Gives (renderPart dir? g part) s t s' ↔
    g.render (Template.library (dir?.map s.disk.templates)) part = .ok t ∧ s = s' := by
  unfold renderPart
  rw [gives_bind_iff]
  constructor
  · rintro ⟨d, between, first, rest⟩
    obtain ⟨rfl, rfl⟩ := gives_disk_iff.mp first
    split at rest
    · rename_i text rendered
      obtain ⟨rfl, rfl⟩ := gives_pure_iff.mp rest
      exact ⟨rendered, rfl⟩
    · exact absurd rest (not_gives_throw _ _)
  · rintro ⟨rendered, rfl⟩
    refine ⟨s.disk, s, gives_disk_iff.mpr ⟨rfl, rfl⟩, ?_⟩
    rw [rendered]
    exact gives_pure_iff.mpr ⟨rfl, rfl⟩

theorem gives_generatorFor_iff {tables : Classification} {framework : String} {schema : Schema} :
    Gives (generatorFor tables framework schema) s g s' ↔
      Generator.make tables framework schema = .ok g ∧ s = s' := by
  unfold generatorFor
  cases made : Generator.make tables framework schema with
  | error e =>
    constructor
    · exact fun h => absurd h (not_gives_throw _ _)
    · rintro ⟨h, -⟩
      cases h
  | ok made =>
    rw [gives_pure_iff, Except.ok.injEq]

section Write

variable {touched : List String → Prop} {directory : Path} {name text : String} {parts : List Part}

theorem confined_renderPart (s : Session) : Confined touched (renderPart dir? g part) s := by
  refine (confined_disk s).bind fun d s₁ _ _ => ?_
  split
  · exact confined_pure _ s₁
  · exact confined_throw _ s₁

theorem confined_writeInto (h : touched (s.disk.absolute (directory.child name)).names) :
    Confined touched (writeInto directory name text) s := by
  refine (confined_makeDirectories directory s).bind fun _ s₁ _ made => ?_
  dsimp only
  rw [← made.absolute] at h
  refine (confined_write text h).bind fun _ s₂ _ _ => ?_
  exact (confined_log _ _ _ s₂).bind fun _ s₃ _ _ => confined_pure _ s₃

/-- A file is written, and its directory and the log. -/
theorem writeInto_spec {p : Path} (h : Gives (writeInto directory name text) s p s') :
    p = directory.child name ∧
      Continues (fun q => LoggedTo s q ∨ q = (s.disk.absolute (directory.child name)).names) s s' ∧
      (¬ LoggedTo s (s.disk.absolute (directory.child name)).names →
        s'.disk.content (directory.child name) = .ok (.text text)) := by
  have touches : Continues
      (fun q => LoggedTo s q ∨ q = (s.disk.absolute (directory.child name)).names) s s' :=
    (confined_writeInto (.inr rfl)).continues (fun _ => .inl) h
  unfold writeInto at h
  obtain ⟨_, s₁, ready, h⟩ := gives_bind_iff.mp h
  obtain ⟨made, prepared, rfl⟩ := gives_makeDirectories_iff.mp ready
  dsimp only at h
  obtain ⟨_, s₂, store, h⟩ := gives_bind_iff.mp h
  obtain ⟨written, wrote, rfl⟩ := gives_write_iff.mp store
  obtain ⟨_, s₃, log, h⟩ := gives_bind_iff.mp h
  obtain ⟨rfl, rfl⟩ := gives_pure_iff.mp h
  exact ⟨rfl, touches,
    content_of_stored (continues_makeDirectories prepared) wrote (continues_log log)⟩

/-- Writing a file leaves others alone. -/
theorem content_of_writeInto {p : Path} {other : String} {c : Content}
    (h : Gives (writeInto directory name text) s p s') (named : IsFileName name)
    (file : IsFileName other) (ne : other ≠ name)
    (apart : ¬ LoggedTo s (s.disk.absolute (directory.child other)).names)
    (held : s.disk.content (directory.child other) = .ok c) :
    s'.disk.content (directory.child other) = .ok c := by
  obtain ⟨-, step, -⟩ := writeInto_spec h
  refine step.content ?_ held
  rintro (hit | same)
  · exact apart hit
  · rw [Disk.absolute_child file, Disk.absolute_child named] at same
    exact ne (List.singleton_inj.mp (List.append_cancel_left same))

/-- The parts are written one by one, each by what its template gives then. -/
theorem writeParts_cons {paths : List Path}
    (h : Gives (writeParts directory dir? g (part :: parts)) s paths s') :
    ∃ t p between rest, g.render (Template.library (dir?.map s.disk.templates)) part = .ok t ∧
      Gives (writeInto directory (g.fileName part) t) s p between ∧
      Gives (writeParts directory dir? g parts) between rest s' ∧ paths = p :: rest := by
  rw [writeParts] at h
  obtain ⟨t, s₁, render, h⟩ := gives_bind_iff.mp h
  obtain ⟨rendered, rfl⟩ := gives_renderPart_iff.mp render
  obtain ⟨p, s₂, store, h⟩ := gives_bind_iff.mp h
  obtain ⟨rest, s₃, more, h⟩ := gives_bind_iff.mp h
  obtain ⟨rfl, rfl⟩ := gives_pure_iff.mp h
  exact ⟨t, p, s₂, rest, rendered, store, more, rfl⟩

/-- Other parts leave a file alone. -/
theorem content_of_writeParts {paths : List Path} {c : Content}
    (h : Gives (writeParts directory dir? g parts) s paths s')
    (named : ∀ part, IsFileName (g.fileName part)) (others : g.fileName part ∉ parts.map g.fileName)
    (apart : ¬ LoggedTo s (s.disk.absolute (directory.child (g.fileName part))).names)
    (held : s.disk.content (directory.child (g.fileName part)) = .ok c) :
    s'.disk.content (directory.child (g.fileName part)) = .ok c := by
  induction parts generalizing s paths with
  | nil =>
    obtain ⟨-, rfl⟩ := gives_pure_iff.mp h
    exact held
  | cons first parts ih =>
    rw [List.map_cons, List.mem_cons, not_or] at others
    obtain ⟨t, p, between, rest, -, store, more, -⟩ := writeParts_cons h
    obtain ⟨-, step, -⟩ := writeInto_spec store
    have stays := content_of_writeInto store (named first) (named part) others.1 apart held
    refine ih more others.2 ?_ stays
    rw [step.loggedTo_iff, step.absolute]
    exact apart

theorem confined_writeParts
    (h : ∀ part ∈ parts, touched (s.disk.absolute (directory.child (g.fileName part))).names) :
    Confined touched (writeParts directory dir? g parts) s := by
  induction parts generalizing s with
  | nil => exact confined_pure _ s
  | cons first parts ih =>
    obtain ⟨one, more⟩ := List.forall_mem_cons.mp h
    rw [writeParts]
    refine (confined_renderPart s).bind fun t s₁ _ rendered => ?_
    rw [← rendered.absolute] at one
    refine (confined_writeInto one).bind fun p s₂ _ written => ?_
    refine Confined.bind (ih fun part mem => ?_) fun rest s₃ _ _ => confined_pure _ s₃
    rw [written.absolute, rendered.absolute]
    exact more part mem

/-- What is touched while parts are written. -/
def Written (directory : Path) (g : Generator) (parts : List Part) (s : Session) (q : List String) :
    Prop :=
  LoggedTo s q ∨ ∃ part ∈ parts, q = (s.disk.absolute (directory.child (g.fileName part))).names

theorem written_iff (h : Continues touched s s') (q : List String) :
    Written directory g parts s' q ↔ Written directory g parts s q := by
  simp only [Written, h.loggedTo_iff, h.absolute]

theorem Written.mono {more : List Part} (sub : ∀ part ∈ parts, part ∈ more) {q : List String}
    (h : Written directory g parts s q) : Written directory g more s q :=
  h.imp_right fun ⟨part, mem, same⟩ => ⟨part, sub part mem, same⟩

theorem continues_writeParts {paths : List Path}
    (h : Gives (writeParts directory dir? g parts) s paths s') :
    Continues (Written directory g parts s) s s' :=
  (confined_writeParts fun part mem => .inr ⟨part, mem, rfl⟩).continues (fun _ => .inl) h

/-- **Each part** is rendered by the templates that are there at its turn, and its file holds the
text. -/
theorem writeParts_rendered {paths : List Path}
    (h : Gives (writeParts directory dir? g parts) s paths s')
    (named : ∀ part, IsFileName (g.fileName part)) (nodup : (parts.map g.fileName).Nodup) :
    paths = parts.map (fun part => directory.child (g.fileName part)) ∧
      ∀ part ∈ parts, ¬ LoggedTo s (s.disk.absolute (directory.child (g.fileName part))).names →
        ∃ moment t, Continues (Written directory g parts s) s moment ∧
          Continues (Written directory g parts s) moment s' ∧
          g.render (Template.library (dir?.map moment.disk.templates)) part = .ok t ∧
          s'.disk.content (directory.child (g.fileName part)) = .ok (.text t) := by
  induction parts generalizing s paths with
  | nil =>
    obtain ⟨rfl, rfl⟩ := gives_pure_iff.mp h
    exact ⟨rfl, nofun⟩
  | cons first parts ih =>
    have all := continues_writeParts h
    rw [List.map_cons, List.nodup_cons] at nodup
    obtain ⟨t, p, between, rest, rendered, store, others, rfl⟩ := writeParts_cons h
    obtain ⟨rfl, step, stored⟩ := writeInto_spec store
    have start : Continues (Written directory g (first :: parts) s) s between :=
      step.mono fun q hit => hit.imp_right fun same => ⟨first, List.mem_cons_self, same⟩
    have later {q : List String} (hit : Written directory g parts between q) :
        Written directory g (first :: parts) s q :=
      ((written_iff start q).mp hit).mono fun part mem => List.mem_cons_of_mem _ mem
    obtain ⟨rfl, held⟩ := ih others nodup.2
    refine ⟨rfl, fun part mem apart => ?_⟩
    rcases List.mem_cons.mp mem with rfl | mem
    · refine ⟨s, t, .refl _ s, all, rendered, ?_⟩
      refine content_of_writeParts others named nodup.1 ?_ (stored apart)
      rwa [step.loggedTo_iff, step.absolute]
    · obtain ⟨moment, t, before, after, rendered, held⟩ := held part mem (by
        rwa [step.loggedTo_iff, step.absolute])
      exact ⟨moment, t, start.trans (before.mono fun _ => later), after.mono fun _ => later,
        rendered, held⟩

/-- **What is written**, by the bundled templates: each part's file holds the part's text. -/
theorem writeParts_spec {paths : List Path} (h : Gives (writeParts directory none g parts) s paths s')
    (named : ∀ part, IsFileName (g.fileName part)) (nodup : (parts.map g.fileName).Nodup)
    (apart : ∀ part ∈ parts,
      ¬ LoggedTo s (s.disk.absolute (directory.child (g.fileName part))).names) :
    paths = parts.map (fun part => directory.child (g.fileName part)) ∧
      ∀ part ∈ parts, ∃ t, g.render (Template.library none) part = .ok t ∧
        s'.disk.content (directory.child (g.fileName part)) = .ok (.text t) := by
  obtain ⟨listed, held⟩ := writeParts_rendered h named nodup
  refine ⟨listed, fun part mem => ?_⟩
  obtain ⟨moment, t, -, -, rendered, there⟩ := held part mem (apart part mem)
  exact ⟨t, rendered, there⟩

/-- A file that is there can be written again. -/
theorem gives_writeInto {c : Content} (dir : s.disk.isDirectory directory = true)
    (held : s.disk.content (directory.child name) = .ok c) (text : String) :
    ∃ s', Gives (writeInto directory name text) s (directory.child name) s' := by
  have parent : s.disk.isDirectory (directory.child name).parent = true := by
    rw [Path.parent_child]
    exact dir
  obtain ⟨written, wrote⟩ :=
    Disk.write_of_content (Disk.hasDirectory_start parent) held (.text text)
  let stored : Session := { s with disk := written }
  have ready : Gives (Action.makeDirectories directory) s () s :=
    gives_makeDirectories_iff.mpr ⟨_, Disk.makeDirectories_of_isDirectory dir, rfl⟩
  have store : Gives (Action.write (directory.child name) text) s () stored :=
    gives_write_iff.mpr ⟨written, wrote, rfl⟩
  let note : LogRecord :=
    ⟨.info, LogRecord.loggerName "generators", s!"Generated {(directory.child name).text}"⟩
  refine ⟨stored.emit note, gives_bind_iff.mpr ⟨(), s, ready, ?_⟩⟩
  refine gives_bind_iff.mpr ⟨(), stored, store, ?_⟩
  exact gives_bind_iff.mpr ⟨(), _, gives_log_iff.mpr rfl, gives_pure_iff.mpr ⟨rfl, rfl⟩⟩

/-- Parts whose files are there can be written again. -/
theorem gives_writeParts (named : ∀ part, IsFileName (g.fileName part))
    (dir : s.disk.isDirectory directory = true)
    (apart : ∀ part ∈ parts,
      ¬ LoggedTo s (s.disk.absolute (directory.child (g.fileName part))).names)
    (there : ∀ part ∈ parts, ∃ c, s.disk.content (directory.child (g.fileName part)) = .ok c) :
    ∃ paths s', Gives (writeParts directory none g parts) s paths s' := by
  induction parts generalizing s with
  | nil => exact ⟨_, _, gives_pure_iff.mpr ⟨rfl, rfl⟩⟩
  | cons first parts ih =>
    obtain ⟨t, rendered⟩ := g.render_bundled first
    obtain ⟨one, more⟩ := List.forall_mem_cons.mp apart
    obtain ⟨⟨c, held⟩, others⟩ := List.forall_mem_cons.mp there
    obtain ⟨between, store⟩ := gives_writeInto dir held t
    obtain ⟨-, step, stored⟩ := writeInto_spec store
    have apart' (part : Part) (mem : part ∈ parts) :
        ¬ LoggedTo between (between.disk.absolute (directory.child (g.fileName part))).names := by
      rw [step.loggedTo_iff, step.absolute]
      exact more part mem
    have there' (part : Part) (mem : part ∈ parts) :
        ∃ c, between.disk.content (directory.child (g.fileName part)) = .ok c := by
      by_cases same : g.fileName part = g.fileName first
      · rw [same]
        exact ⟨_, stored one⟩
      · obtain ⟨c, held⟩ := others part mem
        exact ⟨c, content_of_writeInto store (named first) (named part) same (more part mem) held⟩
    obtain ⟨rest, s', written⟩ := ih (Disk.isDirectory_of_kept step.kept dir) apart' there'
    refine ⟨directory.child (g.fileName first) :: rest, s', ?_⟩
    rw [writeParts]
    refine gives_bind_iff.mpr ⟨t, s, gives_renderPart_iff.mpr ⟨rendered, rfl⟩, ?_⟩
    refine gives_bind_iff.mpr ⟨_, between, store, ?_⟩
    exact gives_bind_iff.mpr ⟨rest, s', written, gives_pure_iff.mpr ⟨rfl, rfl⟩⟩

end Write

theorem parts_eq (run : GenerateSettings) : ∃ rest, run.parts = .component :: rest := ⟨_, rfl⟩

/-- **The component's file** that generating leaves holds what its template gives of the schema. -/
theorem generateOne_spec {p : Project} {settings : Settings} {run : GenerateSettings} {file : Path}
    {paths : List Path} (h : Gives (generateOne p settings run file) s paths s') :
    ∃ source schema g t asked between, s.disk.expandHome file = some source ∧
      Continues (LoggedTo s) s asked ∧
      Gives (extractSchema source settings.classification) asked schema between ∧
      Generator.make settings.classification run.framework schema = .ok g ∧
      g.render (Template.library (settings.templatesDir.map between.disk.templates)) .component =
        .ok t ∧
      let component := ((run.outputDir.getD (p.root.child "generated")).join
        (.ofText schema.contract.componentName)).child (g.fileName .component)
      ¬ LoggedTo s (s.disk.absolute component).names → s'.disk.content component = .ok (.text t) := by
  unfold generateOne at h
  obtain ⟨source, asked, expand, h⟩ := gives_bind_iff.mp h
  unfold sourceOf at expand
  obtain ⟨source', s₁, home, note⟩ := gives_bind_iff.mp expand
  obtain ⟨expanded, rfl⟩ := gives_expandHome_iff.mp home
  obtain ⟨_, s₂, log, same⟩ := gives_bind_iff.mp note
  obtain ⟨rfl, rfl⟩ := gives_pure_iff.mp same
  obtain ⟨schema, between, extract, h⟩ := gives_bind_iff.mp h
  obtain ⟨g, s₃, make, h⟩ := gives_bind_iff.mp h
  obtain ⟨made, rfl⟩ := gives_generatorFor_iff.mp make
  dsimp only at h
  obtain ⟨rest, parts⟩ := parts_eq run
  have others := g.nodup_fileNames run
  rw [parts] at h others
  obtain ⟨t, path, written, paths, rendered, store, more, -⟩ := writeParts_cons h
  obtain ⟨-, -, -, -, -, -, -, extracted⟩ := extractSchema_spec extract
  have logged := continues_log log
  refine ⟨source', schema, g, t, s₂, between, expanded, logged, extract, made, rendered, fun apart => ?_⟩
  obtain ⟨-, step, stored⟩ := writeInto_spec store
  have start := logged.trans_logged (fun _ hit => hit) extracted
  rw [← start.loggedTo_iff, ← start.absolute] at apart
  refine content_of_writeParts more (g.isFileName_fileName made) (List.nodup_cons.mp others).1 ?_
    (stored apart)
  rw [step.loggedTo_iff, step.absolute]
  exact apart

end Project

end PropForge
