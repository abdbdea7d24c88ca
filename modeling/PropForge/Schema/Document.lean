import PropForge.Json.Basic
import PropForge.Schema.Basic

/-!
Schemas as JSON. Every field is written, those without a value as nothing, in a fixed order; the
accessibility map keeps its own keys.
-/

namespace PropForge

/-- A moment in the order of its size, a full stop before the microseconds if there are any.
Universal time is marked with a letter, another offset with its sign, hours and minutes. -/
def Timestamp.text (t : Timestamp) : String :=
  let two := Number.padded 2
  let date := Number.padded 4 t.year ++ '-' :: two t.month ++ '-' :: two t.day
  let clock := two t.hour ++ ':' :: two t.minute ++ ':' :: two t.second
  let fraction := if t.microsecond = 0 then [] else '.' :: Number.padded 6 t.microsecond
  let zone := match t.offset with
    | none => []
    | some 0 => ['Z']
    | some m =>
      (if m < 0 then '-' else '+') :: two (m.natAbs / 60) ++ ':' :: two (m.natAbs % 60)
  String.ofList (date ++ 'T' :: clock ++ fraction ++ zone)

def PropSpec.toJson (p : PropSpec) : Json :=
  .object [("name", .string p.name), ("type", .string p.type), ("required", .bool p.required),
    ("category", .string p.category), ("description", .ofOption p.description)]

def EventSpec.toJson (e : EventSpec) : Json :=
  .object [("name", .string e.name), ("signature", .string e.signature),
    ("description", .ofOption e.description), ("inherited", .bool e.inherited)]

def VariantSpec.toJson (v : VariantSpec) : Json :=
  .object [("name", .string v.name), ("values", .strings v.values), ("type", .string v.type)]

def SlotSpec.toJson (s : SlotSpec) : Json :=
  .object [("name", .string s.name), ("type", .string s.type),
    ("description", .ofOption s.description)]

def Contract.toJson (c : Contract) : Json :=
  .object [("componentName", .string c.componentName),
    ("props", .array (c.props.map PropSpec.toJson)),
    ("events", .array (c.events.map EventSpec.toJson)),
    ("variants", .array (c.variants.map VariantSpec.toJson)),
    ("slots", .array (c.slots.map SlotSpec.toJson)),
    ("accessibility", .object (c.accessibility.map fun (name, type) => (name, .string type))),
    ("description", .ofOption c.description)]

def HookUse.toJson (h : HookUse) : Json :=
  .object [("name", .string h.name), ("dependencies", .strings h.dependencies)]

def RefUse.toJson (r : RefUse) : Json :=
  .object [("name", .string r.name), ("type", .string r.type)]

def ContextUse.toJson (c : ContextUse) : Json :=
  .object [("name", .string c.name), ("provider", .ofOption c.provider),
    ("consumer", .ofOption c.consumer)]

def ImportUse.toJson (i : ImportUse) : Json :=
  .object [("source", .string i.source), ("names", .strings i.names),
    ("isDefault", .bool i.isDefault)]

def Implementation.toJson (m : Implementation) : Json :=
  .object [("type", .string m.type), ("forwardRef", .bool m.forwardRef),
    ("hooks", .array (m.hooks.map HookUse.toJson)),
    ("refs", .array (m.refs.map RefUse.toJson)),
    ("context", .array (m.context.map ContextUse.toJson)),
    ("imports", .array (m.imports.map ImportUse.toJson))]

def StateVariable.toJson (s : StateVariable) : Json :=
  .object [("name", .string s.name), ("type", .string s.type),
    ("defaultValue", .ofOption s.defaultValue)]

def EffectUse.toJson (e : EffectUse) : Json :=
  .object [("name", .string e.name), ("dependencies", .strings e.dependencies)]

def ContextState.toJson (c : ContextState) : Json :=
  .object [("name", .string c.name), ("type", .string c.type),
    ("provider", .ofOption c.provider), ("consumer", .ofOption c.consumer)]

def DerivedState.toJson (d : DerivedState) : Json :=
  .object [("name", .string d.name), ("logic", .string d.logic),
    ("dependencies", .strings d.dependencies)]

def StateUse.toJson (s : StateUse) : Json :=
  .object [("localState", .array (s.localState.map StateVariable.toJson)),
    ("contextState", .array (s.contextState.map ContextState.toJson)),
    ("effects", .array (s.effects.map EffectUse.toJson)),
    ("derivedState", .array (s.derivedState.map DerivedState.toJson))]

def Issue.toJson (i : Issue) : Json :=
  .object [("code", .string i.code), ("message", .string i.message), ("path", .ofOption i.path)]

def Validation.toJson (v : Validation) : Json :=
  .object [("errors", .array (v.errors.map Issue.toJson)),
    ("warnings", .array (v.warnings.map Issue.toJson)), ("isValid", .bool v.isValid)]

def Provenance.toJson (p : Provenance) : Json :=
  .object [("sourceFile", .string p.sourceFile), ("extractedAt", .string p.extractedAt.text),
    ("validation", p.validation.toJson), ("version", .string p.version)]

def Schema.toJson (s : Schema) : Json :=
  .object [("schemaObject", s.contract.toJson), ("componentModel", s.implementation.toJson),
    ("stateManagement", s.state.toJson), ("metadata", s.provenance.toJson)]

end PropForge
