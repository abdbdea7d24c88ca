import PropForge.Schema.Basic

/-!
Checks on a contract. A component must have a name; one without props is suspicious only.
-/

namespace PropForge

def missingName : Issue :=
  ⟨"MISSING_COMPONENT_NAME", "Component name is required", some "schemaObject.componentName"⟩

def noProps : Issue :=
  ⟨"NO_PROPS_FOUND", "No props found in component", some "schemaObject.props"⟩

/-- The issues of a contract. -/
def Contract.validate (c : Contract) : Validation where
  errors := if c.componentName = "" then [missingName] else []
  warnings := if c.props.isEmpty then [noProps] else []

end PropForge
