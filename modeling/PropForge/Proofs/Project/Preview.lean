import PropForge.Proofs.Project.Isolate

/-!
# Previews and generated components

A preview is rendered under the standard tables and a generated component under the project's, both
from the same templates. `preview_eq_component_iff` says when they are the same text.
-/

namespace PropForge.Project

variable {p : Project} {settings : Settings} {run : GenerateSettings} {file out : Path}
  {frameworks : List String} {schema : Schema}

/-- The component's own file, where generating writes it. -/
def componentFile (p : Project) (run : GenerateSettings) (schema : Schema) (framework : Framework) :
    Path :=
  let name := schema.contract.componentName
  ((run.outputDir.getD (p.root.child "generated")).join (.ofText name)).child
    (Part.component.fileName framework (Text.lower name))

/-- The directory of an isolated component. -/
def isolatedDirectory (out : Path) (schema : Schema) : Path :=
  out.join (.ofText schema.contract.componentName)

/-- The preview for a framework, where isolating writes it. -/
def previewFile (out : Path) (schema : Schema) (framework : Framework) : Path :=
  ((isolatedDirectory out schema).child "templates").child (previewName schema framework.name)

/-- **A preview and the generated component**, both made from one state of the disk, come from the same
schema and the same templates, but from a view under the standard tables and from one under the
project's. They are the same text if these tables find the same boolean prefixes in the names of the
props. With the bundled templates they differ just where the lines of the modifiers do, in a component
for Next.js. -/
theorem preview_eq_component_iff {framework : Framework} {s s₀ s₁ s₂ : Session} {paths : List Path}
    {files : IsolatedFiles}
    (extracted : Gives (extractSchema file settings.classification) s schema s₀)
    (generated : Gives (p.generateOne settings run file) s paths s₁)
    (isolated : Gives (isolate ⟨file, out, none, true, frameworks, settings.templatesDir⟩
      settings.classification) s files s₂)
    (chosen : run.framework = framework.name)
    (shown : framework.name ∈ if frameworks.isEmpty then [Framework.nextjs.name] else frameworks)
    (home : s.disk.home.root ≠ "")
    (source : ∀ q ∈ s.disk.expandHome file, ¬ LoggedTo s (s.disk.absolute q).names)
    (spares : ∀ templates ∈ settings.templatesDir, Disk.Spares (fun q => LoggedTo s q ∨
      (s.disk.absolute (isolatedDirectory out schema)).names <+: q) s.disk templates)
    (component : ¬ LoggedTo s (s.disk.absolute (componentFile p run schema framework)).names)
    (preview : ¬ LoggedTo s (s.disk.absolute (previewFile out schema framework)).names) :
    ∃ g t t', Generator.make settings.classification framework.name schema = .ok g ∧
      g.render (Template.library (settings.templatesDir.map s.disk.templates)) .component = .ok t ∧
      { g with view := g.view.reclassified .standard }.render
        (Template.library (settings.templatesDir.map s.disk.templates)) .component = .ok t' ∧
      s₁.disk.content (componentFile p run schema framework) = .ok (.text t) ∧
      s₂.disk.content (previewFile out schema framework) = .ok (.text t') ∧
      ((∀ prop ∈ schema.contract.props, Classification.standard.booleanPrefix? prop.name =
        settings.classification.booleanPrefix? prop.name) → t' = t) ∧
      (settings.templatesDir = none → (t' = t ↔ (framework = .nextjs →
        Modifier.lines (ComponentView.modifiersOf .standard schema.contract.props) =
          Modifier.lines (ComponentView.modifiersOf settings.classification
            schema.contract.props)))) := by
  obtain ⟨asked, schema', g, t, before, between, expanded, logged, extract, made, rendered, held⟩ :=
    generateOne_spec generated
  have same : before.disk.expandHome asked = s.disk.expandHome file := by
    rw [Disk.expandHome_of_home logged.kept.home, expanded]
    exact Disk.expandHome_again home expanded
  have content (q : Path) (hq : q ∈ s.disk.expandHome file) (c : Content)
      (held : s.disk.content q = .ok c) : before.disk.content q = .ok c :=
    logged.content (source q hq) held
  obtain ⟨contract, implementation, state⟩ := extractSchema_again extracted extract same content
  rw [Generator.make_congr contract implementation state] at made
  obtain ⟨-, lower, -, name⟩ := Generator.name_of_make made
  obtain rfl : g.framework = framework := Framework.eq_of_name (name.trans chosen)
  have goes : componentFile p run schema g.framework =
      ((run.outputDir.getD (p.root.child "generated")).join
        (.ofText schema'.contract.componentName)).child (g.fileName .component) := by
    unfold componentFile
    rw [Generator.fileName, lower, contract]
  obtain ⟨-, -, -, -, -, -, -, read⟩ := extractSchema_spec extract
  have kept := (logged.trans_logged (fun _ hit => hit) read).kept
  rw [Disk.library_of_kept (kept.mono fun _ => Or.inl) spares] at rendered
  rw [chosen] at made
  obtain ⟨g', t', made', rendered', held'⟩ := isolate_spec isolated extracted spares _ shown
  rw [Generator.make_reclassified made .standard] at made'
  obtain rfl := Except.ok.inj made'
  obtain ⟨-, view⟩ := Generator.make_eq_ok made
  obtain ⟨props, modifiers⟩ := ComponentView.modifiers_of_ofSchema view
  refine ⟨g, t, t', made, rendered, rendered', ?_, held' preview, fun agree => ?_, fun bundled => ?_⟩
  · rw [goes] at component ⊢
    exact held component
  · have same : g.view.reclassified .standard = g.view :=
      ComponentView.reclassified_eq_self view fun prop mem => agree prop (props ▸ mem)
    rw [same] at rendered'
    exact Except.ok.inj (rendered'.symm.trans rendered)
  · rw [bundled] at rendered rendered'
    have iff := Generator.render_component_iff rendered rendered'
    have other : (g.view.reclassified .standard).modifiers =
        ComponentView.modifiersOf .standard schema.contract.props := by
      rw [← props]
      rfl
    rw [other, modifiers] at iff
    exact iff

/-- A project with one component. -/
def shopSample : Session where
  disk.tree := .directory [("site", .directory [("Widget.tsx", .file (.text
    "interface WidgetProps \x7b showBorder?: boolean; isOpen?: boolean \x7d"))])]
  disk.here := ["site"]
  disk.home := .ofNames ["home"]
  log := .initial
  now := ⟨2024, 1, 2, 3, 4, 5, 678901, some 0⟩
  output := ""
  errorOutput := ""

/-- Settings under which what shows something is boolean. -/
def showSettings : Settings :=
  { Settings.standard (.ofNames ["site"]) with
    classification := { Classification.standard with booleanPrefixes := ["show"] } }

theorem preview_ne_component_sample : ∃ schema s₀ paths s₁ files s₂ t t',
    Gives (extractSchema (.ofText "Widget.tsx") showSettings.classification) shopSample schema s₀ ∧
      Gives (generateOne ⟨.ofNames ["site"]⟩ showSettings .standard (.ofText "Widget.tsx")) shopSample
        paths s₁ ∧
      Gives (isolate ⟨.ofText "Widget.tsx", .ofText "isolated", none, true, ["vue", "nextjs"], none⟩
        showSettings.classification) shopSample files s₂ ∧
      s₁.disk.content (componentFile ⟨.ofNames ["site"]⟩ .standard schema .nextjs) = .ok (.text t) ∧
      s₂.disk.content (previewFile (.ofText "isolated") schema .nextjs) = .ok (.text t') ∧
      t' ≠ t := by
  have described : ((extractSchema (.ofText "Widget.tsx") showSettings.classification).run.run
      shopSample).1.toOption.map (·.contract.props.map (·.name)) = some ["showBorder", "isOpen"] := by
    decide +kernel
  have generates : ((generateOne ⟨.ofNames ["site"]⟩ showSettings .standard
      (.ofText "Widget.tsx")).run.run shopSample).1.toOption.map List.length = some 5 := by
    decide +kernel
  have isolates : ((isolate ⟨.ofText "Widget.tsx", .ofText "isolated", none, true, ["vue", "nextjs"],
      none⟩ showSettings.classification).run.run shopSample).1.toOption.map (·.templates.length) =
        some 2 := by
    decide +kernel
  obtain ⟨schema, s₀, extracted, names⟩ := exists_gives described
  obtain ⟨paths, s₁, generated, -⟩ := exists_gives generates
  obtain ⟨files, s₂, isolated, -⟩ := exists_gives isolates
  have unlogged := not_loggedTo_of_initial (s := shopSample) rfl
  have chosen : GenerateSettings.standard.framework = Framework.nextjs.name := rfl
  obtain ⟨g, t, t', -, -, -, component, preview, -, iff⟩ :=
    preview_eq_component_iff extracted generated isolated chosen (by decide) (by decide)
      (fun _ _ => unlogged _) nofun (unlogged _) (unlogged _)
  refine ⟨schema, s₀, paths, s₁, files, s₂, t, t', extracted, generated, isolated, component, preview,
    fun same => ?_⟩
  have lines := (iff rfl).mp same rfl
  rw [ComponentView.modifiersOf, ComponentView.modifiersOf, names] at lines
  exact absurd lines (by decide +kernel)

end PropForge.Project
