import PropForge.Proofs.Project.Describe

/-!
# Which components can be generated

A component is called as its interface is, without the ending. The name is looked at twice: a schema
is valid if there is one, and files are generated if it is an identifier:

* `interface_of_contract?`: where the name of a component comes from;
* `generates_iff`: what has a generator has all its parts;
* `extracted_generates_iff`: which of the components that are described can be generated, and which are
  valid.
-/

namespace PropForge

namespace Extraction

open TypeScript (Source)

variable {source : Source} {site : Site} {name : String}

/-- What is left of a name without its ending. -/
theorem componentName_append (ends : "Props".toList.isSuffixOf name.toList = true) :
    componentName name ++ "Props" = name := by
  obtain ⟨front, same⟩ := List.isSuffixOf_iff_suffix.mp ends
  have length : name.length - "Props".length = front.length := by
    rw [← String.length_toList, ← same, List.length_append, String.length_toList, Nat.add_sub_cancel]
  apply String.toList_injective
  rw [componentName, length, String.toList_append, String.toList_ofList, ← same, List.take_left]

/-- **The name of a component** is that of the first interface of props, without the ending. -/
theorem interface_of_contract? {tables : Classification} {contract : Contract}
    (h : contract? tables source = some contract) :
    ∃ site, (propsInterfaces source).head? = some site ∧
      childText source site.tree .name = contract.componentName ++ "Props" := by
  obtain ⟨site, first, rfl⟩ := Option.map_eq_some_iff.mp h
  have ends := (List.mem_filter.mp (List.mem_of_mem_head? first)).2
  exact ⟨site, first, (componentName_append ends).symm⟩

end Extraction

/-- A contract is valid if the component has a name. -/
theorem Contract.isValid_validate (c : Contract) :
    c.validate.isValid = true ↔ c.componentName ≠ "" := by
  unfold Contract.validate Validation.isValid
  split <;> simp [*]

namespace Project

variable {s s' : Session} {asked : Path} {tables : Classification} {schema : Schema}
  {framework : Framework}

/-- All parts of a component can be generated by the bundled templates. -/
def Generates (t : Session) (tables : Classification) (framework : Framework) (schema : Schema) : Prop :=
  ∃ g, Gives (generatorFor tables framework.name schema) t g t ∧
    ∀ part, ∃ text, Gives (renderPart none g part) t text t

/-- **What can be generated** is what is called by an identifier. -/
theorem generates_iff {t : Session} : Generates t tables framework schema ↔
    Naming.isIdentifier schema.contract.componentName = true := by
  constructor
  · rintro ⟨g, generator, -⟩
    exact Generator.exists_make_iff.mp ⟨g, (gives_generatorFor_iff.mp generator).1⟩
  · intro named
    obtain ⟨g, made⟩ := Generator.exists_make_iff.mpr named
    refine ⟨g, gives_generatorFor_iff.mpr ⟨made, rfl⟩, fun part => ?_⟩
    obtain ⟨text, rendered⟩ := g.render_bundled part
    exact ⟨text, gives_renderPart_iff.mpr ⟨rendered, rfl⟩⟩

/-- A component whose name is no identifier is refused for it. -/
theorem run_generatorFor (unnamed : Naming.isIdentifier schema.contract.componentName = false)
    (tables : Classification) (framework : Framework) (t : Session) :
    (generatorFor tables framework.name schema).run.run t =
      (.error (.generator (.view (.badName schema.contract.componentName))), t) := by
  have refused : Generator.make tables framework.name schema = _ :=
    Generator.make_eq_error_iff.mpr (.inr ⟨framework, framework.ofName?_name, unnamed, rfl⟩)
  unfold generatorFor
  rw [refused]
  rfl

/-- **Which components can be generated.** A component that is described is called as the first
interface of props in its source, without the ending. If the name is an identifier, all parts can be
generated for every framework, and otherwise none: the name is refused. The schema is valid if there is
a name, so what is not valid is refused, but a name that is there may be refused as well. -/
theorem extracted_generates_iff (extracted : Gives (extractSchema asked tables) s schema s') :
    (∃ path source site, s.disk.expandHome asked = some path ∧ HoldsSource s.disk path source ∧
      (Extraction.propsInterfaces source).head? = some site ∧
      Extraction.childText source site.tree .name = schema.contract.componentName ++ "Props") ∧
    (schema.provenance.validation.isValid = true ↔ schema.contract.componentName ≠ "") ∧
    ∀ (t : Session) (other : Classification) (framework : Framework),
      (Generates t other framework schema ↔
        Naming.isIdentifier schema.contract.componentName = true) ∧
      ((generatorFor other framework.name schema).run.run t =
          (.error (.generator (.view (.badName schema.contract.componentName))), t) ↔
        Naming.isIdentifier schema.contract.componentName = false) ∧
      (schema.provenance.validation.isValid = false → ¬ Generates t other framework schema) := by
  obtain ⟨path, source, expanded, held, described, -⟩ := extractSchema_spec extracted
  obtain ⟨site, first, name⟩ := Extraction.interface_of_contract? described
  have valid : schema.provenance.validation.isValid = true ↔ schema.contract.componentName ≠ "" := by
    rw [provenance_of_extractSchema extracted]
    exact schema.contract.isValid_validate
  refine ⟨⟨path, source, site, expanded, held, first, name⟩, valid, fun t other framework => ?_⟩
  refine ⟨generates_iff, ⟨fun refused => ?_, fun unnamed => run_generatorFor unnamed _ _ t⟩, ?_⟩
  · cases named : Naming.isIdentifier schema.contract.componentName with
    | false => rfl
    | true =>
      have generates : Generates t other framework schema := generates_iff.mpr named
      obtain ⟨g, generator, -⟩ := generates
      cases generator.symm.trans refused
  · intro invalid generates
    have nameless : schema.contract.componentName = "" := by
      by_contra some
      rw [valid.mpr some] at invalid
      cases invalid
    have named := generates_iff.mp generates
    rw [nameless] at named
    exact absurd named (by decide)

/-- A project with a component of a name. -/
def namedSample (name : String) : Session where
  disk.tree := .directory [("site", .directory [("Part.ts", .file (.text
    ("interface " ++ name ++ "Props \x7b a?: string \x7d")))])]
  disk.here := ["site"]
  disk.home := .ofNames ["home"]
  log := .initial
  now := ⟨2024, 1, 2, 3, 4, 5, 678901, some 0⟩
  output := ""
  errorOutput := ""

theorem extracted_generates_iff_tag : ∃ schema s',
    Gives (extractSchema (.ofText "Part.ts") .standard) (namedSample "Tag") schema s' ∧
      ∀ framework, Generates s' .standard framework schema := by
  have described : ((extractSchema (.ofText "Part.ts") .standard).run.run
      (namedSample "Tag")).1.toOption.map (·.contract.componentName) = some "Tag" := by decide +kernel
  obtain ⟨schema, s', extracted, name⟩ := exists_gives described
  obtain ⟨-, -, generates⟩ := extracted_generates_iff extracted
  refine ⟨schema, s', extracted, fun framework => (generates s' .standard framework).1.mpr ?_⟩
  rw [name]
  decide +kernel

/-- A component can be valid and refused: a name may have letters that identifiers have not. -/
theorem valid_not_generated : ∃ schema s',
    Gives (extractSchema (.ofText "Part.ts") .standard) (namedSample "État") schema s' ∧
      schema.provenance.validation.isValid = true ∧
      ∀ t tables framework, ¬ Generates t tables framework schema := by
  have described : ((extractSchema (.ofText "Part.ts") .standard).run.run
      (namedSample "État")).1.toOption.map (fun schema =>
        (schema.contract.componentName, schema.provenance.validation.isValid)) =
          some ("État", true) := by decide +kernel
  obtain ⟨schema, s', extracted, seen⟩ := exists_gives described
  obtain ⟨name, valid⟩ := Prod.mk.inj seen
  refine ⟨schema, s', extracted, valid, fun t tables framework generates => ?_⟩
  have named := generates_iff.mp generates
  rw [name] at named
  exact absurd named (by decide +kernel)

end Project

end PropForge
