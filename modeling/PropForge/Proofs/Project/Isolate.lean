import PropForge.Project.Isolate
import PropForge.Proofs.Project.Generate

/-!
# What isolating writes

All files of an isolated component stand below one directory:

* `writePreviews_spec`: each preview holds what the standard tables give of the schema;
* `isolate_eq`, `gives_isolate`: a run describes the component, stores its schema, and writes all
  else;
* `isolate_spec`: at its end the previews are as they were written.
-/

namespace PropForge

/-- A write below a directory whose files may be touched. -/
theorem Continues.write_below {touched : List String → Prop} {s t : Session} {directory : Path}
    {name : String} {c : Content} {written : Disk} (start : Continues touched s t)
    (named : IsFileName name) (below : ∀ q, (s.disk.absolute directory).names <+: q → touched q)
    (wrote : t.disk.write (directory.child name) c = .ok written) :
    Continues touched s { t with disk := written } := by
  refine start.trans ((continues_write wrote).mono fun q hit => below q ?_)
  rw [hit, start.absolute, Disk.absolute_child named]
  exact List.prefix_append _ _

theorem Continues.makeDirectories {touched : List String → Prop} {s t : Session} {p : Path}
    {made : Disk} (start : Continues touched s t)
    (prepared : t.disk.makeDirectories p = (made, none)) :
    Continues touched s { t with disk := made } :=
  start.trans ((continues_makeDirectories prepared).mono fun _ no => no.elim)

namespace Project

variable {s t t' : Session} {dir? : Option Path} {schema : Schema} {framework text : String}

theorem gives_preview_iff : Gives (preview dir? schema framework) t text t' ↔
    ∃ g, Generator.make .standard framework schema = .ok g ∧
      g.render (Template.library (dir?.map t.disk.templates)) .component = .ok text ∧ t = t' := by
  unfold preview
  rw [gives_bind_iff]
  constructor
  · rintro ⟨g, between, make, render⟩
    obtain ⟨made, rfl⟩ := gives_generatorFor_iff.mp make
    exact ⟨g, made, gives_renderPart_iff.mp render⟩
  · rintro ⟨g, made, rendered, same⟩
    exact ⟨g, t, gives_generatorFor_iff.mpr ⟨made, rfl⟩, gives_renderPart_iff.mpr ⟨rendered, same⟩⟩

/-- What the preview for a framework is called. -/
def previewName (schema : Schema) (framework : String) : String :=
  Text.lower schema.contract.componentName ++ "." ++ framework

theorem isFileName_preview {tables : Classification} {g : Generator}
    (h : Generator.make tables framework schema = .ok g) :
    IsFileName (previewName schema framework) := by
  obtain ⟨-, -, identifier, name⟩ := Generator.name_of_make h
  rw [previewName, String.append_assoc, ← name]
  generalize g.framework = chosen
  cases chosen <;> exact isFileName_of_ending identifier (by decide) (by decide)

theorem previewName_ne {framework' : String} (other : framework ≠ framework') :
    previewName schema framework ≠ previewName schema framework' := by
  rw [previewName, previewName, ne_eq, String.append_right_inj]
  exact other

variable {directory : Path} {frameworks : List String} {paths : List Path}
  {touched : List String → Prop}

/-- A preview is written where it is asked for, and nothing else. -/
theorem writePreviews_cons (h : Gives (writePreviews directory
      (Text.lower schema.contract.componentName) dir? schema (framework :: frameworks)) t paths t') :
    ∃ g text written rest, Generator.make .standard framework schema = .ok g ∧
      g.render (Template.library (dir?.map t.disk.templates)) .component = .ok text ∧
      t.disk.write (directory.child (previewName schema framework)) (.text text) = .ok written ∧
      Gives (writePreviews directory (Text.lower schema.contract.componentName) dir? schema frameworks)
        { t with disk := written } rest t' := by
  rw [writePreviews] at h
  obtain ⟨text, s₁, shown, h⟩ := gives_bind_iff.mp h
  obtain ⟨g, made, rendered, rfl⟩ := gives_preview_iff.mp shown
  dsimp only at h
  obtain ⟨_, s₂, store, h⟩ := gives_bind_iff.mp h
  obtain ⟨written, wrote, rfl⟩ := gives_write_iff.mp store
  obtain ⟨rest, s₃, more, h⟩ := gives_bind_iff.mp h
  obtain ⟨-, rfl⟩ := gives_pure_iff.mp h
  refine ⟨g, text, written, rest, made, rendered, ?_, more⟩
  rw [← Path.join_of_isFileName (isFileName_preview made)]
  exact wrote

/-- Previews for other frameworks leave one alone. -/
theorem content_of_writePreviews {c : Content} (h : Gives (writePreviews directory
      (Text.lower schema.contract.componentName) dir? schema frameworks) t paths t')
    (named : IsFileName (previewName schema framework)) (other : framework ∉ frameworks)
    (held : t.disk.content (directory.child (previewName schema framework)) = .ok c) :
    t'.disk.content (directory.child (previewName schema framework)) = .ok c := by
  induction frameworks generalizing t paths with
  | nil =>
    obtain ⟨-, rfl⟩ := gives_pure_iff.mp h
    exact held
  | cons first frameworks ih =>
    rw [List.mem_cons, not_or] at other
    obtain ⟨g, text, written, rest, made, -, wrote, more⟩ := writePreviews_cons h
    refine ih more other.2 ((continues_write wrote).content ?_ held)
    rw [Disk.absolute_child named, Disk.absolute_child (isFileName_preview made)]
    exact fun same => previewName_ne other.1 (List.singleton_inj.mp (List.append_cancel_left same))

/-- **Each preview** holds what the standard tables give of the schema. -/
theorem writePreviews_spec (h : Gives (writePreviews directory
      (Text.lower schema.contract.componentName) dir? schema frameworks) t paths t')
    (start : Continues touched s t)
    (below : ∀ q, (s.disk.absolute directory).names <+: q → touched q)
    (spares : ∀ templates ∈ dir?, Disk.Spares touched s.disk templates) :
    Continues touched s t' ∧ ∀ framework ∈ frameworks,
      ∃ g text, Generator.make .standard framework schema = .ok g ∧
        g.render (Template.library (dir?.map s.disk.templates)) .component = .ok text ∧
        t'.disk.content (directory.child (previewName schema framework)) = .ok (.text text) := by
  induction frameworks generalizing t paths with
  | nil =>
    obtain ⟨-, rfl⟩ := gives_pure_iff.mp h
    exact ⟨start, fun _ none => by cases none⟩
  | cons first frameworks ih =>
    obtain ⟨g, text, written, rest, made, rendered, wrote, more⟩ := writePreviews_cons h
    have named := isFileName_preview made
    obtain ⟨all, others⟩ := ih more (start.write_below named below wrote)
    refine ⟨all, fun framework mem => ?_⟩
    by_cases again : framework ∈ frameworks
    · exact others framework again
    · obtain rfl := (List.mem_cons.mp mem).resolve_right again
      rw [Disk.library_of_kept start.kept spares] at rendered
      exact ⟨g, text, made, rendered,
        content_of_writePreviews more named again (Disk.content_of_write wrote)⟩

section Stages

/-- Where the schema of an isolated component is stored. -/
def schemaFile (out : Path) (name : String) : Path :=
  (out.join (.ofText name)).join (.ofText (Text.lower name ++ ".schema.json"))

/-- Records where the files of an isolated component are. -/
def announce (files : IsolatedFiles) : Action IsolatedFiles := do
  Action.info "isolation" s!"Component schema saved: {files.componentName}"
  Action.info "isolation" s!"  Schema: {files.schema.text}"
  Action.info "isolation" s!"  Types: {files.types.text}"
  Action.info "isolation" s!"  Validation: {files.rules.text}"
  return files

theorem recording_announce (files : IsolatedFiles) : Recording (announce files) :=
  (recording_log _ _ _).bind fun _ => (recording_log _ _ _).bind fun _ =>
    (recording_log _ _ _).bind fun _ => (recording_log _ _ _).bind fun _ => recording_pure _

theorem result_announce (files : IsolatedFiles) (s : Session) :
    ((announce files).run.run s).1 = .ok files := rfl

/-- Writes what an isolated component has besides its schema. -/
def writeOthers (i : Isolation) (tables : Classification) (schema : Schema) :
    Action IsolatedFiles := do
  let name := schema.contract.componentName
  let lower := Text.lower name
  let directory := i.outputDir.join (.ofText name)
  let g ← generatorFor tables Framework.nextjs.name schema
  let typesFile := directory.join (.ofText (lower ++ ".types.ts"))
  Action.write typesFile (← renderPart i.templatesDir g .schemaTypes)
  let rulesFile := directory.join (.ofText (lower ++ ".validation.json"))
  Action.write rulesFile (Json.document (schema.contract.rules tables))
  let templates ←
    if i.includeTemplates then do
      let previews := directory.child "templates"
      Action.makeDirectories previews
      let frameworks := if i.frameworks.isEmpty then [Framework.nextjs.name] else i.frameworks
      writePreviews previews lower i.templatesDir schema frameworks
    else pure []
  announce ⟨name, schemaFile i.outputDir name, typesFile, rulesFile, templates⟩

/-- **Isolating a component** is describing it, storing its schema, and writing all else. -/
theorem isolate_eq {source out : Path} {includeTemplates : Bool} {tables : Classification} :
    isolate ⟨source, out, none, includeTemplates, frameworks, dir?⟩ tables = (do
      let schema ← extractSchema source tables
      let name := schema.contract.componentName
      Action.makeDirectories (out.join (.ofText name))
      Action.write (schemaFile out name)
        (Json.document (isolatedDocument name source (← get).now schema))
      writeOthers ⟨source, out, none, includeTemplates, frameworks, dir?⟩ tables schema) := by
  simp only [isolate, writeOthers, announce, schemaFile, Option.filter_none, Option.getD_none]

/-- **Isolating** stores the schema of a component, and then writes all else. -/
theorem gives_isolate {source out : Path} {includeTemplates : Bool} {tables : Classification}
    {files : IsolatedFiles} {s' : Session}
    (h : Gives (isolate ⟨source, out, none, includeTemplates, frameworks, dir?⟩ tables) s files s') :
    ∃ schema before made written, Gives (extractSchema source tables) s schema before ∧
      before.disk.makeDirectories (out.join (.ofText schema.contract.componentName)) = (made, none) ∧
      made.write (schemaFile out schema.contract.componentName) (.text (Json.document
        (isolatedDocument schema.contract.componentName source before.now schema))) = .ok written ∧
      Gives (writeOthers ⟨source, out, none, includeTemplates, frameworks, dir?⟩ tables schema)
        { before with disk := written } files s' := by
  rw [isolate_eq] at h
  obtain ⟨schema, before, described, h⟩ := gives_bind_iff.mp h
  obtain ⟨_, ready, prepares, h⟩ := gives_bind_iff.mp h
  obtain ⟨made, prepared, rfl⟩ := gives_makeDirectories_iff.mp prepares
  obtain ⟨_, _, clock, h⟩ := gives_bind_iff.mp h
  obtain ⟨rfl, rfl⟩ := gives_get_iff.mp clock
  obtain ⟨_, _, stores, h⟩ := gives_bind_iff.mp h
  obtain ⟨written, wrote, rfl⟩ := gives_write_iff.mp stores
  exact ⟨schema, before, made, written, described, prepared, wrote, h⟩

/-- All else is the types and the rules and, if they are asked for, previews in a directory of their
own. -/
theorem gives_writeOthers {i : Isolation} {tables : Classification} {files : IsolatedFiles}
    {s' : Session} (previews : i.includeTemplates = true)
    (h : Gives (writeOthers i tables schema) s files s') :
    let directory := i.outputDir.join (.ofText schema.contract.componentName)
    let lower := Text.lower schema.contract.componentName
    ∃ g types withTypes rules withRules withDirectory paths shown,
      Generator.make tables Framework.nextjs.name schema = .ok g ∧
      s.disk.write (directory.join (.ofText (lower ++ ".types.ts"))) (.text types) =
        .ok withTypes ∧
      withTypes.write (directory.join (.ofText (lower ++ ".validation.json"))) (.text rules) =
        .ok withRules ∧
      withRules.makeDirectories (directory.child "templates") = (withDirectory, none) ∧
      Gives (writePreviews (directory.child "templates") lower i.templatesDir schema
        (if i.frameworks.isEmpty then [Framework.nextjs.name] else i.frameworks))
        { s with disk := withDirectory } paths shown ∧
      ∃ told, Gives (announce told) shown files s' := by
  unfold writeOthers at h
  obtain ⟨g, _, make, h⟩ := gives_bind_iff.mp h
  obtain ⟨made, rfl⟩ := gives_generatorFor_iff.mp make
  obtain ⟨types, _, render, h⟩ := gives_bind_iff.mp h
  obtain ⟨-, rfl⟩ := gives_renderPart_iff.mp render
  obtain ⟨_, _, storeTypes, h⟩ := gives_bind_iff.mp h
  obtain ⟨withTypes, wroteTypes, rfl⟩ := gives_write_iff.mp storeTypes
  obtain ⟨_, _, storeRules, h⟩ := gives_bind_iff.mp h
  obtain ⟨withRules, wroteRules, rfl⟩ := gives_write_iff.mp storeRules
  rw [if_pos previews] at h
  obtain ⟨_, _, ready, h⟩ := gives_bind_iff.mp h
  obtain ⟨withDirectory, prepared, rfl⟩ := gives_makeDirectories_iff.mp ready
  obtain ⟨paths, shown, preview, h⟩ := gives_bind_iff.mp h
  exact ⟨g, types, withTypes, _, withRules, withDirectory, paths, shown, made, wroteTypes, wroteRules,
    prepared, preview, _, h⟩

end Stages

/-- The files of an isolated component are called by its name in lower case. -/
theorem isFileName_isolated {name : String} (identifier : Naming.isIdentifier name = true)
    (ending : String) (mem : ending ∈ [".schema.json", ".types.ts", ".validation.json"]) :
    IsFileName (Text.lower name ++ ending) := by
  simp only [List.mem_cons, List.not_mem_nil, or_false] at mem
  rcases mem with rfl | rfl | rfl <;> exact isFileName_of_ending identifier (by decide) (by decide)

theorem isFileName_templates : IsFileName "templates" := isFileName_of_long (by decide) (by decide)

/-- **The previews** that isolating leaves hold what the standard tables give of the schema. -/
theorem isolate_spec {source out : Path} {tables : Classification} {files : IsolatedFiles}
    {s₀ s' : Session}
    (h : Gives (isolate ⟨source, out, none, true, frameworks, dir?⟩ tables) s files s')
    (extracted : Gives (extractSchema source tables) s schema s₀)
    (spares : ∀ templates ∈ dir?, Disk.Spares (fun q => LoggedTo s q ∨
      (s.disk.absolute (out.join (.ofText schema.contract.componentName))).names <+: q)
        s.disk templates) :
    ∀ framework ∈ if frameworks.isEmpty then [Framework.nextjs.name] else frameworks,
      ∃ g text, Generator.make .standard framework schema = .ok g ∧
        g.render (Template.library (dir?.map s.disk.templates)) .component = .ok text ∧
        let preview := ((out.join (.ofText schema.contract.componentName)).child "templates").child
          (previewName schema framework)
        ¬ LoggedTo s (s.disk.absolute preview).names →
          s'.disk.content preview = .ok (.text text) := by
  obtain ⟨found, before, made, written, extract, prepared, wrote, others⟩ := gives_isolate h
  obtain ⟨rfl, rfl⟩ := gives_unique extract extracted
  obtain ⟨g, types, withTypes, rules, withRules, withDirectory, paths, shown, valid, wroteTypes,
    wroteRules, preparedPreviews, preview, told, announced⟩ := gives_writeOthers rfl others
  obtain ⟨-, -, identifier, -⟩ := Generator.name_of_make valid
  obtain ⟨-, -, -, -, -, -, -, logged⟩ := extractSchema_spec extract
  rw [schemaFile] at wrote
  generalize out.join (.ofText found.contract.componentName) = directory at *
  have schemaNamed := isFileName_isolated identifier ".schema.json" (by decide)
  have typesNamed := isFileName_isolated identifier ".types.ts" (by decide)
  have rulesNamed := isFileName_isolated identifier ".validation.json" (by decide)
  rw [Path.join_of_isFileName schemaNamed] at wrote
  rw [Path.join_of_isFileName typesNamed] at wroteTypes
  rw [Path.join_of_isFileName rulesNamed] at wroteRules
  have below (q : List String) (hit : (s.disk.absolute directory).names <+: q) :
      LoggedTo s q ∨ (s.disk.absolute directory).names <+: q := .inr hit
  have entry : Continues (fun q => LoggedTo s q ∨ (s.disk.absolute directory).names <+: q) s before :=
    logged.mono fun _ => Or.inl
  have start := entry.makeDirectories prepared
  have afterSchema := start.write_below schemaNamed below wrote
  have afterTypes := afterSchema.write_below typesNamed below wroteTypes
  have afterRules := afterTypes.write_below rulesNamed below wroteRules
  have ready := afterRules.makeDirectories preparedPreviews
  have inside (q : List String) (hit : (s.disk.absolute (directory.child "templates")).names <+: q) :
      LoggedTo s q ∨ (s.disk.absolute directory).names <+: q := by
    rw [Disk.absolute_child isFileName_templates] at hit
    exact below q ((List.prefix_append _ _).trans hit)
  obtain ⟨all, each⟩ := writePreviews_spec preview ready inside spares
  have quiet := ((recording_announce told).recorded announced).continues
  intro framework mem
  obtain ⟨g', text, made', rendered, held⟩ := each framework mem
  refine ⟨g', text, made', rendered, fun apart => quiet.content ?_ held⟩
  rw [all.loggedTo_iff, all.absolute]
  exact apart

end Project

end PropForge
