import PropForge.Component.View

/-!
# What a view says of a schema

A schema whose component is called by an identifier has one view. `Shows` says of each part of it what
it is made of, so that nothing else has to look into how views are made.
-/

namespace PropForge.ComponentView

/-- A view of a schema under tables. -/
structure Shows (tables : Classification) (schema : Schema) (v : ComponentView) : Prop where
  identifier : Naming.isIdentifier schema.contract.componentName = true
  props : v.props = schema.contract.props
  sections : v.sections = sectionsOf schema.contract.props
  bindings : v.bindings =
    schema.contract.variants.map (bindVariant schema.contract.componentName schema.contract.props)
  cases : v.cases = casesOf v.bindings
  state : v.state = (nameState (reservedNames schema.contract.componentName schema.contract.props)
    schema.state.localState).1
  /-- Hooks are called after the state is named. -/
  customHooks : v.customHooks =
    hookCalls (nameState (reservedNames schema.contract.componentName schema.contract.props)
      schema.state.localState).2 (schema.implementation.hooks.map (·.name))
  effects : v.effects = schema.state.effects
  patterns : v.patterns = patternsOf tables schema.contract.props
  modifiers : v.modifiers = v.patterns.boolean.map (modifierOf tables)
  ouiaArguments : v.ouiaArguments =
    (argumentFor schema.contract.props "ouiaId", argumentFor schema.contract.props "ouiaSafe")
  hasChildren : v.hasChildren = schema.contract.props.any fun p => p.name = "children"
  hasClassName : v.hasClassName = schema.contract.props.any fun p => p.name = "className"

theorem shows_of_ofSchema {tables : Classification} {schema : Schema} {v : ComponentView}
    (h : ofSchema tables schema = .ok v) : v.Shows tables schema := by
  simp only [ofSchema] at h
  split at h
  · cases h
  · rename_i named
    cases h
    constructor
    case identifier => simpa using named
    all_goals rfl

theorem name_of_ofSchema {tables : Classification} {schema : Schema} {v : ComponentView}
    (h : ofSchema tables schema = .ok v) : v.name = schema.contract.componentName := by
  simp only [ofSchema] at h
  split at h
  · cases h
  · cases h
    rfl

theorem variants_eq_of_ofSchema {tables : Classification} {schema : Schema} {v : ComponentView}
    (h : ofSchema tables schema = .ok v) : v.variants = schema.contract.variants := by
  simp only [ofSchema] at h
  split at h
  · cases h
  · cases h
    rfl

theorem events_eq_of_ofSchema {tables : Classification} {schema : Schema} {v : ComponentView}
    (h : ofSchema tables schema = .ok v) : v.events = schema.contract.events := by
  simp only [ofSchema] at h
  split at h
  · cases h
  · cases h
    rfl

/-- **What has no view** is a component whose name is no identifier. -/
theorem ofSchema_eq_error_iff {tables : Classification} {schema : Schema} {r : Refusal} :
    ofSchema tables schema = .error r ↔
      Naming.isIdentifier schema.contract.componentName = false ∧
        r = .badName schema.contract.componentName := by
  simp only [ofSchema]
  cases Naming.isIdentifier schema.contract.componentName with
  | true =>
    constructor
    · intro h
      cases h
    · rintro ⟨bad, -⟩
      cases bad
  | false =>
    constructor
    · intro h
      exact ⟨rfl, (Except.error.inj h).symm⟩
    · rintro ⟨-, rfl⟩
      rfl

end PropForge.ComponentView
