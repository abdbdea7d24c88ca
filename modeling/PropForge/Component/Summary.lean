import PropForge.Assoc
import PropForge.Number.Digits
import PropForge.Schema.Basic

/-!
A summary of a schema for reading: counts, the props by their types, variants, events, the
implementation, and the issues if there are any.
-/

namespace PropForge.Summary

def rule : String := String.ofList (List.replicate 60 '=')

/-- The lines above a part of the summary. -/
def heading (title : String) : List String := ["", rule, title, rule]

def count {α : Type} (xs : List α) : String := String.ofList (Number.digits xs.length)

def joined (ss : List String) : String := ", ".intercalate ss

/-- Names in a row, or a word for none. -/
def names (ss : List String) : String := if ss.isEmpty then "(none)" else joined ss

def overview (s : Schema) : List String :=
  let c := s.contract
  [rule, "EXTRACTION SUMMARY", rule,
    "Component: " ++ c.componentName,
    "Source: " ++ s.provenance.sourceFile,
    "Props Count: " ++ count c.props,
    "Events Count: " ++ count c.events,
    "Variants Count: " ++ count c.variants,
    "Hooks Count: " ++ count s.implementation.hooks,
    "Imports Count: " ++ count s.implementation.imports,
    "Validation: " ++ (if s.provenance.validation.isValid then "Valid" else "Invalid")]

/-- The props of each type in one line, the types in the order of first use. -/
def props (ps : List PropSpec) : List String :=
  let byType := Assoc.group (ps.map fun p => (p.type, p.name))
  heading "PROPS" ++ ["Props by Type:"] ++
    byType.map (fun (type, ns) => "  " ++ type ++ ": " ++ joined ns) ++
    ["Required Props: " ++ count (ps.filter (·.required)),
      "Optional Props: " ++ count (ps.filter (!·.required))]

def variants (vs : List VariantSpec) : List String :=
  heading "VARIANTS" ++ vs.flatMap fun v =>
    [v.name ++ ":", "  Values: " ++ names v.values, "  Count: " ++ count v.values]

def events (es : List EventSpec) : List String :=
  heading "EVENTS" ++ es.map fun e =>
    e.name ++ ": " ++ e.signature ++ (if e.inherited then " (inherited)" else "")

def implementation (m : Implementation) : List String :=
  heading "COMPONENT MODEL" ++
    ["Type: " ++ m.type,
      "Forward Ref: " ++ (if m.forwardRef then "Yes" else "No"),
      "Hooks Used: " ++ names (m.hooks.map (·.name)),
      "Imports:"] ++
    m.imports.map fun i => "  " ++ i.source ++ ": " ++ joined i.names

def issue (severity : String) (i : Issue) : String :=
  "  " ++ severity ++ " " ++ i.code ++ ": " ++ i.message

/-- The issues, errors first. Without any there is no such part. -/
def issues (v : Validation) : List String :=
  if v.errors.isEmpty && v.warnings.isEmpty then []
  else heading "VALIDATION" ++ v.errors.map (issue "ERROR") ++ v.warnings.map (issue "WARNING")

end PropForge.Summary

namespace PropForge

/-- The summary of a schema, each line with its end. -/
def Schema.summary (s : Schema) : String :=
  let lines := Summary.overview s ++ Summary.props s.contract.props ++
    Summary.variants s.contract.variants ++ Summary.events s.contract.events ++
    Summary.implementation s.implementation ++ Summary.issues s.provenance.validation
  String.join (lines.map (· ++ "\n"))

end PropForge
