import PropForge.Component.View
import PropForge.Template.Value

/-!
What templates see of a component: each part of its view as a record, with the names that
templates use for the fields.
-/

namespace PropForge

open Template (Value)

/-- A text, or nothing. -/
def Template.Value.ofOption : Option String → Value
  | some s => .text s
  | none => .nothing

/-- The texts of a list. -/
def Template.Value.texts (ss : List String) : Value := .list (ss.map .text)

/-- A record of a component's schema. -/
def schemaRecord (name : String) (fields : List (String × Value)) : Value :=
  .record ("pfgen.models." ++ name) fields []

/-- A record of a component's view. -/
def viewRecord (name : String) (fields derived : List (String × Value)) : Value :=
  .record ("pfgen.generators.context." ++ name) fields derived

def PropSpec.exposed (p : PropSpec) : Value :=
  schemaRecord "PropDefinition"
    [("name", .text p.name), ("type", .text p.type), ("required", .flag p.required),
      ("category", .text p.category), ("description", .ofOption p.description)]

def EventSpec.exposed (e : EventSpec) : Value :=
  schemaRecord "EventDefinition"
    [("name", .text e.name), ("signature", .text e.signature),
      ("description", .ofOption e.description), ("inherited", .flag e.inherited)]

def VariantSpec.exposed (v : VariantSpec) : Value :=
  schemaRecord "VariantDefinition"
    [("name", .text v.name), ("values", .texts v.values), ("type", .text v.type)]

def StateVariable.exposed (s : StateVariable) : Value :=
  schemaRecord "StateDefinition"
    [("name", .text s.name), ("type", .text s.type),
      ("default_value", .ofOption s.defaultValue)]

def EffectUse.exposed (e : EffectUse) : Value :=
  schemaRecord "EffectDefinition"
    [("name", .text e.name), ("dependencies", .texts e.dependencies)]

def PropSection.exposed (s : PropSection) : Value :=
  viewRecord "PropSection"
    [("category", .text s.category), ("title", .text s.title),
      ("props", .list (s.props.map PropSpec.exposed))] []

/-- The name that the prop is bound to is derived from the prop's own. -/
def VariantBinding.exposed (b : VariantBinding) : Value :=
  viewRecord "VariantBinding"
    [("variant", b.variant.exposed), ("prop_name", .text b.propName),
      ("matched", .flag b.matched)]
    [("local", .text b.local)]

def VariantCase.exposed (c : VariantCase) : Value :=
  viewRecord "VariantCase"
    [("prop_name", .text c.propName), ("value", .text c.value),
      ("story_name", .text c.storyName)] []

def Modifier.exposed (m : Modifier) : Value :=
  viewRecord "Modifier" [("local", .text m.localName), ("modifier", .text m.modifier)] []

def HookCall.exposed (h : HookCall) : Value :=
  viewRecord "HookCall" [("name", .text h.name), ("result", .text h.result)] []

def NamePatterns.exposed (p : NamePatterns) : Value :=
  viewRecord "Patterns"
    [("ouia", .texts p.ouia), ("aria", .texts p.aria), ("boolean", .texts p.boolean)] []

/-- The whole view, as templates see it. -/
def ComponentView.exposed (v : ComponentView) : Value :=
  viewRecord "TemplateContext"
    [("component_name", .text v.name),
      ("component_name_lower", .text v.nameLower),
      ("styles_key", .text v.stylesKey),
      ("props", .list (v.props.map PropSpec.exposed)),
      ("prop_sections", .list (v.sections.map PropSection.exposed)),
      ("events", .list (v.events.map EventSpec.exposed)),
      ("variants", .list (v.variants.map VariantSpec.exposed)),
      ("variant_bindings", .list (v.bindings.map VariantBinding.exposed)),
      ("variant_cases", .list (v.cases.map VariantCase.exposed)),
      ("custom_hooks", .list (v.customHooks.map HookCall.exposed)),
      ("state", .list (v.state.map StateVariable.exposed)),
      ("effects", .list (v.effects.map EffectUse.exposed)),
      ("patterns", v.patterns.exposed),
      ("modifiers", .list (v.modifiers.map Modifier.exposed)),
      ("react_imports", .texts v.reactImports),
      ("ouia_args", .tuple [.text v.ouiaArguments.1, .text v.ouiaArguments.2]),
      ("has_children", .flag v.hasChildren),
      ("has_class_name", .flag v.hasClassName),
      ("forward_ref", .flag v.forwardRef),
      ("component_type", .text v.componentType)] []

end PropForge
