import PropForge.Proofs.Project.Configured
import PropForge.Proofs.Project.Isolate
import PropForge.Proofs.Project.Describe
import PropForge.Proofs.Schema.Document

/-!
# The schema that is printed and the one that is stored

A schema names the file that it was asked for. Printing it asks for a file with its home directory
resolved, and isolating a component does not:

* `text_expandHome_iff`: a path that starts at a home directory reads otherwise once it is resolved;
* `isolateOne_stores`: what is stored of a component is still there when all else is written;
* `stored_eq_printed_iff`: so the two documents differ in the name of the file, and only for such a path.
-/

namespace PropForge

section Home

variable {d : Disk} {p q : Path}

/-- Paths from a root. -/
def Path.IsAbsolute (p : Path) : Prop := p.root = "/" ∨ p.root = "//"

/-- **Paths that start at a home directory** are those that read otherwise once they are resolved. -/
theorem Disk.text_expandHome_iff (home : d.home.IsAbsolute) (h : d.expandHome p = some q) :
    q.text = p.text ↔ d.expandHome p = some p := by
  have slash (names : List String) : (Path.text ⟨d.home.root, names⟩).toList.head? = some '/' := by
    rcases home with root | root <;> rw [root] <;> simp [Path.text]
  have tilde (rest : List String) : (Path.text ⟨"", "~" :: rest⟩).toList.head? = some '~' := by
    cases rest <;> simp [Path.text, String.toList_intercalate, List.intercalate]
  constructor
  · intro same
    have whole := h
    obtain ⟨root, names⟩ := p
    unfold expandHome at h
    split at h
    · rename_i rest relative starts
      obtain rfl : root = "" := relative
      obtain rfl : names = "~" :: rest := starts
      cases h
      have first := slash (d.home.names ++ rest)
      rw [same, tilde] at first
      cases first
    · split at h <;> cases h
      exact whole
    · cases h
      exact whole
  · intro plain
    rw [Option.some.inj (h.symm.trans plain)]

end Home

section Document

/-- The names in the accessibility map of a contract are each there once. -/
theorem Extraction.once_of_contract? {tables : Classification} {source : TypeScript.Source}
    {contract : Contract} (h : contract? tables source = some contract) :
    (Assoc.keys contract.accessibility).Nodup := by
  obtain ⟨site, -, rfl⟩ := Option.map_eq_some_iff.mp h
  have none : (Assoc.keys ([] : List (String × String))).Nodup := List.nodup_nil
  exact Assoc.nodup_keys_merge none _

/-- The document of an isolated schema can be read back, and the schema is in it. -/
theorem Project.parse_isolatedDocument (schema : Schema) (name : String) (source : Path)
    (now : Timestamp) (once : (Assoc.keys schema.contract.accessibility).Nodup) :
    ∃ document, Json.parse (Json.document (isolatedDocument name source now schema)).toList =
        .ok document ∧ document.field? "schema" = some schema.toJson := by
  have inner := Schema.wellFormed_toJson once
  refine ⟨_, Json.parse_document ?_, rfl⟩
  simp [isolatedDocument, Assoc.keys, inner]

/-- The name of the file in a schema. -/
def Schema.ofFile (schema : Schema) (file : String) : Schema :=
  { schema with provenance := { schema.provenance with sourceFile := file } }

/-- Schemas that differ in the name of the file at most are the same if they name the same file. -/
theorem Schema.toJson_ofFile_iff {schema : Schema} {file file' : String} :
    (schema.ofFile file).toJson = (schema.ofFile file').toJson ↔ file = file' := by
  constructor
  · intro same
    simpa [ofFile, toJson, Provenance.toJson] using same
  · rintro rfl
    rfl

/-- A schema that says the same of a component, but for the name of the file. -/
theorem Schema.eq_ofFile {schema schema' : Schema} {file : String}
    (contract : schema.contract = schema'.contract)
    (implementation : schema.implementation = schema'.implementation)
    (state : schema.state = schema'.state)
    (provenance : schema.provenance = { schema'.provenance with sourceFile := file }) :
    schema = schema'.ofFile file := by
  cases schema
  cases schema'
  cases contract
  cases implementation
  cases state
  cases provenance
  rfl

end Document

namespace Project

variable {p : Project} {path out : Path} {includeTemplates : Bool} {frameworks : List String}
  {tables : Classification} {schema : Schema} {s s' : Session} {files : IsolatedFiles}

section Stored

/-- **Isolating a component** stores its schema, after no more than records, and then writes all else. -/
theorem gives_isolateOne (h : Gives (p.isolateOne path out includeTemplates frameworks) s files s') :
    ∃ settings looked schema before made written, Gives p.settings s settings looked ∧
      Gives (extractSchema path settings.classification) looked schema before ∧
      before.disk.makeDirectories (out.join (.ofText schema.contract.componentName)) = (made, none) ∧
      made.write (schemaFile out schema.contract.componentName) (.text (Json.document
        (isolatedDocument schema.contract.componentName path before.now schema))) = .ok written ∧
      Gives (writeOthers ⟨path, out, none, includeTemplates, frameworks, settings.templatesDir⟩
        settings.classification schema) { before with disk := written } files s' := by
  obtain ⟨settings, looked, configured, h⟩ := gives_bind_iff.mp h
  obtain ⟨schema, before, made, written, described, prepared, wrote, others⟩ := gives_isolate h
  exact ⟨settings, looked, schema, before, made, written, configured, described, prepared, wrote,
    others⟩

theorem confined_generatorFor {touched : List String → Prop} {framework : String} (s : Session) :
    Confined touched (generatorFor tables framework schema) s := by
  unfold generatorFor
  split
  · exact confined_pure _ s
  · exact confined_throw _ s

/-- Previews touch only what is below their directory. -/
theorem confined_writePreviews {touched : List String → Prop} {directory : Path} {dir? : Option Path}
    (below : ∀ q, (s.disk.absolute directory).names <+: q → touched q) (frameworks : List String) :
    Confined touched (writePreviews directory (Text.lower schema.contract.componentName) dir? schema
      frameworks) s := by
  induction frameworks generalizing s with
  | nil => exact confined_pure _ s
  | cons framework rest ih =>
    rw [writePreviews]
    have shown : Confined touched (preview dir? schema framework) s :=
      (confined_generatorFor s).bind fun _ s' _ _ => confined_renderPart s'
    refine shown.bind fun text t given _ => ?_
    obtain ⟨g, made, -, rfl⟩ := gives_preview_iff.mp given
    have named := isFileName_preview made
    have place : directory.join (.ofText (Text.lower schema.contract.componentName ++ "." ++
        framework)) = directory.child (previewName schema framework) :=
      Path.join_of_isFileName named directory
    rw [place]
    refine Confined.bind (confined_write text (below _ ?_)) fun _ t _ start => ?_
    · rw [Disk.absolute_child named]
      exact List.prefix_append _ _
    · refine (ih fun q hit => below q ?_).bind fun _ t _ _ => confined_pure _ t
      rwa [start.absolute] at hit

/-- What an isolated component has besides its schema is in other files. -/
theorem confined_writeOthers {touched : List String → Prop} {i : Isolation} {directory : Path}
    (goes : directory = i.outputDir.join (.ofText schema.contract.componentName))
    (types : touched (s.disk.absolute (directory.join
      (.ofText (Text.lower schema.contract.componentName ++ ".types.ts")))).names)
    (rules : touched (s.disk.absolute (directory.join
      (.ofText (Text.lower schema.contract.componentName ++ ".validation.json")))).names)
    (below : ∀ q, (s.disk.absolute (directory.child "templates")).names <+: q → touched q) :
    Confined touched (writeOthers i tables schema) s := by
  subst goes
  refine (confined_generatorFor s).bind fun g t given _ => ?_
  obtain ⟨-, rfl⟩ := gives_generatorFor_iff.mp given
  refine (confined_renderPart s).bind fun text t given _ => ?_
  obtain ⟨-, rfl⟩ := gives_renderPart_iff.mp given
  refine (confined_write text types).bind fun _ t _ start => ?_
  rw [← start.absolute] at rules
  refine (confined_write _ rules).bind fun _ t' _ start' => ?_
  dsimp only
  split
  · refine (confined_makeDirectories _ t').bind fun _ t'' _ start'' => ?_
    refine (confined_writePreviews (fun q hit => below q ?_) _).bind fun _ t _ _ =>
      (recording_announce _).confined t
    rwa [start''.absolute, start'.absolute, start.absolute] at hit
  · exact (confined_pure [] t').bind fun _ t _ _ => (recording_announce _).confined t

/-- The schema of an isolated component is in the file that it is said to be in. -/
theorem schema_of_writeOthers {i : Isolation} (h : Gives (writeOthers i tables schema) s files s') :
    Naming.isIdentifier schema.contract.componentName = true ∧
      files.schema = schemaFile i.outputDir schema.contract.componentName := by
  unfold writeOthers at h
  obtain ⟨g, _, make, h⟩ := gives_bind_iff.mp h
  have made := (gives_generatorFor_iff.mp make).1
  have last {t : Session} {result : IsolatedFiles} (h : Gives (announce result) t files s') :
      result = files :=
    Except.ok.inj ((result_announce result t).symm.trans (congrArg Prod.fst h))
  obtain ⟨_, _, -, h⟩ := gives_bind_iff.mp h
  obtain ⟨_, _, -, h⟩ := gives_bind_iff.mp h
  obtain ⟨_, _, -, h⟩ := gives_bind_iff.mp h
  refine ⟨(Generator.name_of_make made).2.2.1, ?_⟩
  dsimp only at h
  split at h
  · obtain ⟨_, _, -, h⟩ := gives_bind_iff.mp h
    obtain ⟨_, _, -, h⟩ := gives_bind_iff.mp h
    rw [← last h]
  · obtain ⟨_, _, -, h⟩ := gives_bind_iff.mp h
    rw [← last h]

/-- Writing all else leaves the schema of a component as it was stored. -/
theorem content_of_writeOthers {i : Isolation} {c : Content}
    (h : Gives (writeOthers i tables schema) s files s')
    (apart : ¬ LoggedTo s
      (s.disk.absolute (schemaFile i.outputDir schema.contract.componentName)).names)
    (held : s.disk.content (schemaFile i.outputDir schema.contract.componentName) = .ok c) :
    s'.disk.content (schemaFile i.outputDir schema.contract.componentName) = .ok c := by
  obtain ⟨identifier, -⟩ := schema_of_writeOthers h
  obtain ⟨directory, goes⟩ : ∃ directory,
      directory = i.outputDir.join (.ofText schema.contract.componentName) := ⟨_, rfl⟩
  rw [schemaFile, ← goes] at apart held ⊢
  have schemaNamed := isFileName_isolated identifier ".schema.json" (by decide)
  have typesNamed := isFileName_isolated identifier ".types.ts" (by decide)
  have rulesNamed := isFileName_isolated identifier ".validation.json" (by decide)
  have ending {a b : String} (ne : a ≠ b) :
      Text.lower schema.contract.componentName ++ a ≠ Text.lower schema.contract.componentName ++ b :=
    fun same => ne ((String.append_right_inj _).mp same)
  rw [Path.join_of_isFileName schemaNamed] at apart held ⊢
  -- all else is in the same directory, but it is not called like the schema's file
  have other {name : String} (named : IsFileName name)
      (ne : name ≠ Text.lower schema.contract.componentName ++ ".schema.json") :
      (s.disk.absolute (directory.join (.ofText name))).names ≠ (s.disk.absolute
        (directory.child (Text.lower schema.contract.componentName ++ ".schema.json"))).names := by
    intro same
    rw [Path.join_of_isFileName named, Disk.absolute_child named, Disk.absolute_child schemaNamed] at same
    exact ne (List.singleton_inj.mp (List.append_cancel_left same))
  have confined : Confined (fun q => LoggedTo s q ∨ q ≠ (s.disk.absolute (directory.child
      (Text.lower schema.contract.componentName ++ ".schema.json"))).names)
      (writeOthers i tables schema) s := by
    refine confined_writeOthers goes (.inr (other typesNamed (ending (by decide))))
      (.inr (other rulesNamed (ending (by decide)))) fun q hit => .inr fun same => ?_
    rw [same, Disk.absolute_child isFileName_templates, Disk.absolute_child schemaNamed,
      List.prefix_append_right_inj, List.cons_prefix_cons] at hit
    have dot : '.' ∈ (Text.lower schema.contract.componentName ++ ".schema.json").toList := by
      rw [String.toList_append]
      exact List.mem_append_right _ (by decide)
    rw [← hit.1] at dot
    exact absurd dot (by decide)
  exact (confined.continues (fun _ => Or.inl) h).content (not_or.mpr ⟨apart, not_not.mpr rfl⟩) held

/-- **What is stored of a component** is still there when all else is written. -/
theorem isolateOne_stores (h : Gives (p.isolateOne path out includeTemplates frameworks) s files s')
    (apart : ¬ LoggedTo s (s.disk.absolute files.schema).names) :
    ∃ settings looked schema before, Gives p.settings s settings looked ∧
      Gives (extractSchema path settings.classification) looked schema before ∧
      s'.disk.content files.schema = .ok (.text (Json.document
        (isolatedDocument schema.contract.componentName path s.now schema))) := by
  obtain ⟨settings, looked, schema, before, made, written, configured, described, prepared, wrote,
    others⟩ := gives_isolateOne h
  obtain ⟨-, place⟩ := schema_of_writeOthers others
  have noted : Recorded s before := ((recording_settings p).recorded configured).trans
    ((recording_extractSchema path).recorded described)
  rw [noted.continues.now] at wrote
  have start : Continues (fun _ => True) s { before with disk := written } :=
    (noted.continues.mono fun _ _ => trivial).trans
      (((continues_makeDirectories prepared).mono fun _ _ => trivial).trans
        ((continues_write (s := { before with disk := made }) wrote).mono fun _ _ => trivial))
  rw [place] at apart ⊢
  refine ⟨settings, looked, schema, before, configured, described,
    content_of_writeOthers others ?_ (Disk.content_of_write wrote)⟩
  rw [start.loggedTo_iff, start.absolute]
  exact apart

end Stored

section Agreement

variable {text : String} {s₁ s₂ : Session}

/-- **Printing a component** resolves the home directory first, and then describes the file. -/
theorem gives_extractText (h : Gives (p.extractText path true) s text s') :
    ∃ asked asks settings looked schema, s.disk.expandHome path = some asked ∧ Recorded s asks ∧
      Gives p.settings asks settings looked ∧
      Gives (extractSchema asked settings.classification) looked schema s' ∧
      text = Json.document schema.toJson := by
  obtain ⟨schema, _, extract, h⟩ := gives_bind_iff.mp h
  obtain ⟨rfl, rfl⟩ := gives_pure_iff.mp h
  obtain ⟨asked, asks, finds, extract⟩ := gives_bind_iff.mp extract
  obtain ⟨settings, looked, configured, described⟩ := gives_bind_iff.mp extract
  obtain ⟨found, _, expand, finds⟩ := gives_bind_iff.mp finds
  obtain ⟨expanded, rfl⟩ := gives_expandHome_iff.mp expand
  obtain ⟨_, noted, log, finds⟩ := gives_bind_iff.mp finds
  obtain ⟨rfl, rfl⟩ := gives_pure_iff.mp finds
  exact ⟨found, noted, settings, looked, schema, expanded, (recording_log _ _ _).recorded log,
    configured, described, rfl⟩

/-- Records between two looks at the settings do not matter if they go elsewhere. -/
theorem settings_unique {settings settings' : Settings} {looked looked' : Session}
    (noted : Recorded s s') (h : Gives p.settings s settings looked)
    (h' : Gives p.settings s' settings' looked')
    (apart : ∀ root ∈ s.disk.expandHome p.root,
      ¬ LoggedTo s (s.disk.absolute (Settings.fileFor s.disk root)).names) :
    settings' = settings := by
  have found := result_settings p s
  have found' := result_settings p s'
  rw [show p.settings.run.run s = _ from h] at found
  rw [show p.settings.run.run s' = _ from h', settingsAt_congr noted.sameShape
    fun q hq => noted.unchanged.content_eq (apart q hq)] at found'
  exact Except.ok.inj (found'.trans found.symm)

/-- **What is said of a component** in one file is the same twice, but for the name it was asked for. -/
theorem schema_again {looked looked' : Session} {asked asked' file : Path} {schema' : Schema}
    (noted : Recorded s looked) (noted' : Recorded s looked')
    (h : Gives (extractSchema asked tables) looked schema s₁)
    (h' : Gives (extractSchema asked' tables) looked' schema' s₂)
    (one : s.disk.expandHome asked = some file) (other : s.disk.expandHome asked' = some file)
    (apart : ¬ LoggedTo s (s.disk.absolute file).names) :
    schema' = schema.ofFile asked'.text := by
  have home := noted.sameShape.home
  have home' := noted'.sameShape.home
  have first := (Disk.expandHome_of_home home asked).trans one
  have second := (Disk.expandHome_of_home home' asked').trans other
  obtain ⟨contract, implementation, state⟩ := extractSchema_again h h' (second.trans first.symm) (by
    rintro q named c held
    obtain rfl := Option.some.inj (first.symm.trans named)
    rw [noted.unchanged.content_eq apart] at held
    rw [noted'.unchanged.content_eq apart, held])
  refine Schema.eq_ofFile contract implementation state ?_
  rw [provenance_of_extractSchema h, provenance_of_extractSchema h', contract, noted.continues.now,
    noted'.continues.now]

/-- **The schema that is printed and the one that is stored.** Both commands may succeed for the same
path, in the same project and at the same time, with a log that goes to none of the files that they
look at. Then the two documents say the same of the component, but the one that is printed names the
file with its home directory resolved, and the one that is stored as it was asked for. So they are the
same exactly if the path does not start at a home directory. -/
theorem stored_eq_printed_iff (prints : Gives (p.extractText path true) s text s₁)
    (isolates : Gives (p.isolateOne path out includeTemplates frameworks) s files s₂)
    (home : s.disk.home.IsAbsolute)
    (source : ∀ asked ∈ s.disk.expandHome path, ¬ LoggedTo s (s.disk.absolute asked).names)
    (configuration : ∀ root ∈ s.disk.expandHome p.root,
      ¬ LoggedTo s (s.disk.absolute (Settings.fileFor s.disk root)).names)
    (storage : ¬ LoggedTo s (s.disk.absolute files.schema).names) :
    ∃ (schema : Schema) (asked : Path) (printed stored document : Json) (content : String),
      s.disk.expandHome path = some asked ∧
      printed = (schema.ofFile asked.text).toJson ∧ stored = (schema.ofFile path.text).toJson ∧
      Json.parse text.toList = .ok printed ∧
      s₂.disk.content files.schema = .ok (.text content) ∧
      Json.parse content.toList = .ok document ∧ document.field? "schema" = some stored ∧
      (stored = printed ↔ s.disk.expandHome path = some path) := by
  obtain ⟨asked, asks, settings, looked, schema, expanded, noted, configured, described, rfl⟩ :=
    gives_extractText prints
  obtain ⟨settings', looked', schema', before, configured', described', held⟩ :=
    isolateOne_stores isolates storage
  obtain rfl : settings = settings' := settings_unique noted configured' configured configuration
  have again : s.disk.expandHome asked = some asked :=
    Disk.expandHome_again (by rcases home with root | root <;> rw [root] <;> decide) expanded
  have look := noted.trans ((recording_settings p).recorded configured)
  have look' := (recording_settings p).recorded configured'
  obtain rfl : schema' = schema.ofFile path.text :=
    schema_again look look' described described' again expanded (source asked expanded)
  have same : schema = schema.ofFile asked.text :=
    schema_again look look described described again again (source asked expanded)
  obtain ⟨_, _, -, -, contract, -⟩ := extractSchema_spec described
  have once := Extraction.once_of_contract? contract
  have printed := Json.parse_document (Schema.wellFormed_toJson once)
  obtain ⟨document, parsed, inside⟩ :=
    parse_isolatedDocument (schema.ofFile path.text) _ path s.now once
  refine ⟨schema, asked, schema.toJson, _, document, _, expanded, congrArg Schema.toJson same, rfl, printed,
    held, parsed, inside, ?_⟩
  calc (schema.ofFile path.text).toJson = schema.toJson
      ↔ (schema.ofFile path.text).toJson = (schema.ofFile asked.text).toJson := by rw [← same]
    _ ↔ path.text = asked.text := Schema.toJson_ofFile_iff
    _ ↔ asked.text = path.text := eq_comm
    _ ↔ s.disk.expandHome path = some path := Disk.text_expandHome_iff home expanded

/-- A project beside a home directory with a component. -/
def homeSample : Session where
  disk.tree := .directory [("site", .directory []), ("home", .directory [("Tag.ts", .file (.text
    "interface TagProps \x7b a?: string \x7d"))])]
  disk.here := ["site"]
  disk.home := .ofNames ["home"]
  log := .initial
  now := ⟨2024, 1, 2, 3, 4, 5, 678901, some 0⟩
  output := ""
  errorOutput := ""

/-- A component in a home directory is stored with another name of its file than it is printed with. -/
theorem stored_ne_printed_home : ∃ text s₁ files s₂ printed content document stored,
    Gives (extractText ⟨.ofNames ["site"]⟩ (.ofText "~/Tag.ts") true) homeSample text s₁ ∧
      Gives (isolateOne ⟨.ofNames ["site"]⟩ (.ofText "~/Tag.ts") (.ofText "out") false []) homeSample
        files s₂ ∧
      Json.parse text.toList = .ok printed ∧ s₂.disk.content files.schema = .ok (.text content) ∧
      Json.parse content.toList = .ok document ∧ document.field? "schema" = some stored ∧
      stored ≠ printed := by
  have prints : ((extractText ⟨.ofNames ["site"]⟩ (.ofText "~/Tag.ts") true).run.run
      homeSample).1.toOption.map (fun _ => ()) = some () := by decide +kernel
  have isolates : ((isolateOne ⟨.ofNames ["site"]⟩ (.ofText "~/Tag.ts") (.ofText "out") false []).run.run
      homeSample).1.toOption.map (fun _ => ()) = some () := by decide +kernel
  obtain ⟨text, s₁, prints, -⟩ := exists_gives prints
  obtain ⟨files, s₂, isolates, -⟩ := exists_gives isolates
  have unlogged := not_loggedTo_of_initial (s := homeSample) rfl
  obtain ⟨schema, asked, printed, stored, document, content, expanded, -, -, parsed, held, parsed',
    inside, iff⟩ := stored_eq_printed_iff prints isolates (.inl rfl) (fun _ _ => unlogged _)
      (fun _ _ => unlogged _) (unlogged _)
  have moved : homeSample.disk.expandHome (.ofText "~/Tag.ts") ≠ some (.ofText "~/Tag.ts") := by
    decide +kernel
  exact ⟨text, s₁, files, s₂, printed, content, document, stored, prints, isolates, parsed, held,
    parsed', inside, fun same => moved (iff.mp same)⟩

end Agreement

end Project

end PropForge
