import PropForge.Proofs.Project.Accepted
import PropForge.Proofs.Project.Configured
import PropForge.Proofs.Project.Isolate
import PropForge.Proofs.Project.Single

/-!
# What a refused name leaves

A component whose name is no identifier has no generator, but isolating it asks for one only after its
schema is stored:

* `failsAs_writeOthers`, `ne_view_of_isIdentifier`: a name that is an identifier is not refused;
* `isolateOne_refused_iff`: when a name is refused, and what is written by then;
* `isolateOne_refused`: so its directory and its schema are left, and all is as before only if they
  were there.
-/

namespace PropForge.Project

variable {p : Project} {source out : Path} {includeTemplates : Bool} {frameworks : List String}
  {tables : Classification} {schema : Schema} {s s' : Session} {name : String} {f : Failure}

section Failures

variable {bad : ComponentView.Refusal}

variable {P : Failure → Prop}

/-- Loading the settings fails because a home is not known, or for the settings file. -/
theorem failsAs_settings (p : Project) (unknown : ∀ d : Disk, d.expandHome p.root = none → P .noHome)
    (unread : ∀ fault, P (.ofRead fault)) (refused : ∀ fault, P (.settings fault))
    (wrong : ∀ fault, P (.settingsValue fault)) : FailsAs P p.settings := by
  intro s f failed
  rw [result_settings] at failed
  rcases error_of_settingsAt failed with ⟨rfl, none⟩ | ⟨fault, rfl⟩ | ⟨fault, rfl⟩ | ⟨fault, rfl⟩
  · exact unknown s.disk none
  · exact unread fault
  · exact refused fault
  · exact wrong fault

/-- Describing a component fails because a home is not known, or for the source. -/
theorem failsAs_extractSchema (unknown : P .noHome) (early : ∀ f, f.isExtraction = true → P f) :
    FailsAs P (extractSchema source tables) := by
  intro s f failed
  rw [result_extractSchema] at failed
  rcases error_of_schemaAt failed with ⟨rfl, -⟩ | extraction
  · exact unknown
  · exact early f extraction

/-- The name of a component is not refused if it is an identifier. -/
theorem ne_view_of_isIdentifier (named : Naming.isIdentifier schema.contract.componentName = true)
    {framework : String} {refusal : Generator.Refusal}
    (made : Generator.make tables framework schema = .error refusal) :
    Failure.generator refusal ≠ .generator (.view bad) := by
  rcases Generator.make_eq_error_iff.mp made with ⟨-, rfl⟩ | ⟨_, -, refused, -⟩
  · nofun
  · rw [named] at refused
    cases refused

theorem failsAs_generatorFor {framework : String} (refused : ∀ refusal,
    Generator.make tables framework schema = .error refusal → P (.generator refusal)) :
    FailsAs P (generatorFor tables framework schema) := by
  unfold generatorFor
  split
  · exact failsAs_pure _
  · rename_i refusal made
    exact failsAs_throw (refused refusal made)

theorem failsAs_writePreviews {directory : Path} {lower : String} {dir? : Option Path}
    (onDisk : ∀ fault, P (.disk fault)) (inTemplate : ∀ e, P (.template e))
    (refused : ∀ framework refusal,
      Generator.make .standard framework schema = .error refusal → P (.generator refusal))
    (frameworks : List String) :
    FailsAs P (writePreviews directory lower dir? schema frameworks) := by
  induction frameworks with
  | nil => exact failsAs_pure _
  | cons framework rest ih =>
    have shown : FailsAs P (preview dir? schema framework) :=
      (failsAs_generatorFor (refused framework)).bind fun _ =>
        failsAs_renderPart fun _ e _ => inTemplate e
    exact shown.bind fun _ => (failsAs_write onDisk).bind fun _ => ih.bind fun _ => failsAs_pure _

/-- Once its schema is stored, isolating a component fails for what is on the disk, for a template, or
because there is no generator for it. -/
theorem failsAs_writeOthers (i : Isolation) (onDisk : ∀ fault, P (.disk fault))
    (inTemplate : ∀ e, P (.template e)) (refused : ∀ tables framework refusal,
      Generator.make tables framework schema = .error refusal → P (.generator refusal)) :
    FailsAs P (writeOthers i tables schema) := by
  have announces (files : IsolatedFiles) : FailsAs P (announce files) := by
    intro t f failed
    rw [result_announce] at failed
    cases failed
  refine (failsAs_generatorFor (refused tables _)).bind fun g => ?_
  refine (failsAs_renderPart fun _ e _ => inTemplate e).bind fun types => ?_
  refine (failsAs_write onDisk).bind fun _ => (failsAs_write onDisk).bind fun _ => ?_
  dsimp only
  split
  · refine (failsAs_makeDirectories onDisk).bind fun _ => ?_
    exact (failsAs_writePreviews onDisk inTemplate (refused .standard) _).bind fun templates =>
      announces _
  · exact (failsAs_pure []).bind fun templates => announces _

/-- A name that is no identifier is refused at once. -/
theorem run_writeOthers (i : Isolation)
    (unnamed : Naming.isIdentifier schema.contract.componentName = false) (s : Session) :
    (writeOthers i tables schema).run.run s =
      (.error (.generator (.view (.badName schema.contract.componentName))), s) := by
  unfold writeOthers
  rw [run_bind, run_generatorFor unnamed]

end Failures

section Refused

/-- **When a name is refused**: it is that of the component that is described, it is no identifier, and
by then its directory was made and its schema was stored there, after no more than records. -/
theorem isolateOne_refused_iff :
    (p.isolateOne source out includeTemplates frameworks).run.run s =
        (.error (.generator (.view (.badName name))), s') ↔
      ∃ settings looked schema before made written, Gives p.settings s settings looked ∧
        Gives (extractSchema source settings.classification) looked schema before ∧
        schema.contract.componentName = name ∧ Naming.isIdentifier name = false ∧
        before.disk.makeDirectories (out.join (.ofText name)) = (made, none) ∧
        made.write (schemaFile out name)
          (.text (Json.document (isolatedDocument name source before.now schema))) = .ok written ∧
        s' = { before with disk := written } := by
  constructor
  · intro refused
    rcases run_bind_error_iff.mp refused with failed | ⟨settings, looked, configured, refused⟩
    · have never : FailsAs (· ≠ .generator (.view (.badName name))) p.settings :=
        failsAs_settings p (fun _ _ => nofun) (fun fault => by cases fault <;> nofun) (fun _ => nofun)
          fun _ => nofun
      exact (not_fails failed never).elim
    rw [isolate_eq] at refused
    rcases run_bind_error_iff.mp refused with failed | ⟨schema, before, described, refused⟩
    · refine (not_fails failed (failsAs_extractSchema nofun ?_)).elim
      rintro f early rfl
      cases early
    rcases run_bind_error_iff.mp refused with failed | ⟨_, ready, prepares, refused⟩
    · exact (not_fails failed (failsAs_makeDirectories fun _ => nofun)).elim
    obtain ⟨made, prepared, rfl⟩ := gives_makeDirectories_iff.mp prepares
    rcases run_bind_error_iff.mp refused with failed | ⟨_, _, clock, refused⟩
    · cases failed
    obtain ⟨rfl, rfl⟩ := gives_get_iff.mp clock
    rcases run_bind_error_iff.mp refused with failed | ⟨_, _, stores, refused⟩
    · exact (not_fails failed (failsAs_write fun _ => nofun)).elim
    obtain ⟨written, wrote, rfl⟩ := gives_write_iff.mp stores
    cases named : Naming.isIdentifier schema.contract.componentName with
    | true =>
      exact (not_fails refused (failsAs_writeOthers _ (fun _ => nofun) (fun _ => nofun)
        fun _ _ _ => ne_view_of_isIdentifier named)).elim
    | false =>
      rw [run_writeOthers _ named] at refused
      cases refused
      exact ⟨settings, looked, schema, before, made, written, configured, described, rfl, named,
        prepared, wrote, rfl⟩
  · rintro ⟨settings, looked, schema, before, made, written, configured, described, rfl, unnamed,
      prepared, wrote, rfl⟩
    refine run_bind_error_iff.mpr (.inr ⟨settings, looked, configured, ?_⟩)
    rw [isolate_eq]
    refine run_bind_error_iff.mpr (.inr ⟨schema, before, described, ?_⟩)
    let ready : Session := { before with disk := made }
    have prepares : Gives (Action.makeDirectories (out.join (.ofText schema.contract.componentName)))
        before () ready := gives_makeDirectories_iff.mpr ⟨made, prepared, rfl⟩
    refine run_bind_error_iff.mpr (.inr ⟨(), ready, prepares, ?_⟩)
    have clock : Gives get ready ready ready := gives_get_iff.mpr ⟨rfl, rfl⟩
    refine run_bind_error_iff.mpr (.inr ⟨ready, ready, clock, ?_⟩)
    have stores : Gives (Action.write (schemaFile out schema.contract.componentName)
        (Json.document (isolatedDocument schema.contract.componentName source ready.now schema)))
        ready () { ready with disk := written } := gives_write_iff.mpr ⟨written, wrote, rfl⟩
    exact run_bind_error_iff.mpr (.inr ⟨(), _, stores, run_writeOthers _ unnamed _⟩)

/-- **What a refused name leaves.** It is the name of the component that is described. The directory of
the component is there, and its schema is stored in it; no other file is touched, but for those of the
log. So unless the log goes to the schema's file, everything is as it was only if the directory was
there and the file held this very schema. -/
theorem isolateOne_refused (refused : (p.isolateOne source out includeTemplates frameworks).run.run s =
      (.error (.generator (.view (.badName name))), s')) :
    Naming.isIdentifier name = false ∧ ∃ settings looked schema before,
      Gives p.settings s settings looked ∧
      Gives (extractSchema source settings.classification) looked schema before ∧
      schema.contract.componentName = name ∧
      s'.disk.isDirectory (out.join (.ofText name)) = true ∧
      s'.disk.content (schemaFile out name) =
        .ok (.text (Json.document (isolatedDocument name source s.now schema))) ∧
      Continues (fun q => LoggedTo s q ∨ q = (s.disk.absolute (schemaFile out name)).names) s s' ∧
      (¬ LoggedTo s (s.disk.absolute (schemaFile out name)).names →
        (Unchanged s s' ↔ s.disk.isDirectory (out.join (.ofText name)) = true ∧
          s.disk.content (schemaFile out name) =
            .ok (.text (Json.document (isolatedDocument name source s.now schema))))) := by
  obtain ⟨settings, looked, schema, before, made, written, configured, described, named, unnamed,
    prepared, wrote, rfl⟩ := isolateOne_refused_iff.mp refused
  have noted : Recorded s before := ((recording_settings p).recorded configured).trans
    ((recording_extractSchema source).recorded described)
  have start := noted.continues
  rw [start.now] at wrote
  have ready := continues_makeDirectories prepared
  have store := continues_write (s := { before with disk := made }) wrote
  have there := Disk.isDirectory_of_kept (Disk.kept_write wrote)
    (Disk.isDirectory_of_makeDirectories prepared)
  have held := Disk.content_of_write wrote
  refine ⟨unnamed, settings, looked, schema, before, configured, described, named, there, held, ?others,
    fun apart => ⟨fun same => ?unchanged, ?written⟩⟩
  case others =>
    refine (start.mono fun _ => Or.inl).trans ((ready.mono fun _ no => no.elim).trans
      (store.mono fun q hit => .inr ?_))
    rw [hit, ready.absolute, start.absolute]
  case unchanged =>
    rw [← Disk.isDirectory_congr same.shape, ← same.content_eq apart]
    exact ⟨there, held⟩
  case written =>
    rintro ⟨there', held'⟩
    rw [← Disk.isDirectory_congr noted.sameShape] at there'
    rw [← noted.unchanged.content_eq apart] at held'
    rw [Disk.makeDirectories_of_isDirectory there'] at prepared
    cases prepared
    have same : Unchanged before { before with disk := written } :=
      ⟨Disk.sameShape_write held' wrote,
        rfl, rfl, (Disk.kept_rewrite held' wrote).mono fun _ no => no.elim⟩
    exact noted.unchanged.trans same

theorem isolateOne_refused_accented : ∃ s',
    (isolateOne ⟨.ofNames ["site"]⟩ (.ofText "Part.ts") (.ofText "out") false []).run.run
      (namedSample "État") = (.error (.generator (.view (.badName "État"))), s') ∧
    s'.disk.isDirectory (.ofText "out/État") = true ∧ ¬ Unchanged (namedSample "État") s' := by
  have refused : ((isolateOne ⟨.ofNames ["site"]⟩ (.ofText "Part.ts") (.ofText "out") false []).run.run
      (namedSample "État")).1 = .error (.generator (.view (.badName "État"))) := by decide +kernel
  obtain ⟨s', failed⟩ := exists_fails refused
  obtain ⟨-, settings, looked, schema, before, -, -, -, there, -, -, same⟩ := isolateOne_refused failed
  have place : (Path.ofText "out").join (.ofText "État") = .ofText "out/État" := by decide +kernel
  have absent : (namedSample "État").disk.isDirectory (.ofText "out/État") = false := by decide +kernel
  rw [place] at there same
  refine ⟨s', failed, there, fun unchanged => ?_⟩
  have before := ((same (not_loggedTo_of_initial rfl _)).mp unchanged).1
  rw [absent] at before
  cases before

end Refused

end PropForge.Project
