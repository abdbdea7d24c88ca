import PropForge.Component.View
import PropForge.Schema.Document

/-!
Rules that stand for a component without its source: what each prop, variant and event must be
like, and which props follow a naming pattern.
-/

namespace PropForge

def PropSpec.rule (p : PropSpec) : Json :=
  .object [("name", .string p.name), ("required", .bool p.required), ("type", .string p.type),
    ("category", .string p.category),
    ("validation", .object [("required", .bool p.required), ("type", .string p.type)])]

def EventSpec.rule (e : EventSpec) : Json :=
  .object [("name", .string e.name), ("signature", .string e.signature),
    ("inherited", .bool e.inherited)]

def NamePatterns.toJson (p : NamePatterns) : Json :=
  .object [("ouia", .strings p.ouia), ("aria", .strings p.aria), ("boolean", .strings p.boolean)]

/-- The rules of a component. -/
def Contract.rules (tables : Classification) (c : Contract) : Json :=
  .object [("componentName", .string c.componentName),
    ("rules", .object [("props", .array (c.props.map PropSpec.rule)),
      ("variants", .array (c.variants.map VariantSpec.toJson)),
      ("events", .array (c.events.map EventSpec.rule))]),
    ("patterns", (ComponentView.patternsOf tables c.props).toJson)]

end PropForge
