import PropForge.Component.Rules
import PropForge.Project.Generate

/-!
A component on its own: its schema, the declarations of its types, the rules it is checked by, and
perhaps what it looks like in other frameworks, each in a file of one directory.
-/

namespace PropForge

/-- What is isolated, and where it goes. -/
structure Isolation where
  source : Path
  outputDir : Path
  componentName : Option String
  includeTemplates : Bool
  frameworks : List String
  templatesDir : Option Path
  deriving DecidableEq, Repr

/-- The files of an isolated component. -/
structure IsolatedFiles where
  componentName : String
  schema : Path
  types : Path
  rules : Path
  templates : List Path
  deriving DecidableEq, Repr

def IsolatedFiles.paths (f : IsolatedFiles) : List Path :=
  [f.schema, f.types, f.rules] ++ f.templates

namespace Project

/-- The component's file for a framework, as the standard tables classify its props. -/
def preview (templatesDir : Option Path) (schema : Schema) (framework : String) :
    Action String := do
  let g ← generatorFor .standard framework schema
  renderPart templatesDir g .component

/-- The document that an isolated schema is stored in. -/
def isolatedDocument (name : String) (source : Path) (now : Timestamp) (schema : Schema) : Json :=
  .object [("componentName", .string name), ("schema", schema.toJson),
    ("metadata", .object [("extractedAt", .string now.text), ("sourceFile", .string source.text),
      ("version", .string schemaVersion)])]

/-- Writes the previews for some frameworks. -/
def writePreviews (directory : Path) (lower : String) (templatesDir : Option Path)
    (schema : Schema) : List String → Action (List Path)
  | [] => return []
  | framework :: rest => do
    let text ← preview templatesDir schema framework
    let p := directory.join (.ofText (lower ++ "." ++ framework))
    Action.write p text
    return p :: (← writePreviews directory lower templatesDir schema rest)

/-- Isolates a component. The schema is written before the component is known to be renderable. -/
def isolate (i : Isolation) (tables : Classification) : Action IsolatedFiles := do
  let schema ← extractSchema i.source tables
  let name := (i.componentName.filter (· ≠ "")).getD schema.contract.componentName
  let lower := Text.lower name
  let directory := i.outputDir.join (.ofText name)
  let file (ending : String) := directory.join (.ofText (lower ++ ending))
  Action.makeDirectories directory
  let schemaFile := file ".schema.json"
  Action.write schemaFile
    (Json.document (isolatedDocument name i.source (← get).now schema))
  let g ← generatorFor tables Framework.nextjs.name schema
  let typesFile := file ".types.ts"
  Action.write typesFile (← renderPart i.templatesDir g .schemaTypes)
  let rulesFile := file ".validation.json"
  Action.write rulesFile (Json.document (schema.contract.rules tables))
  let templates ←
    if i.includeTemplates then do
      let previews := directory.child "templates"
      Action.makeDirectories previews
      let frameworks := if i.frameworks.isEmpty then [Framework.nextjs.name] else i.frameworks
      writePreviews previews lower i.templatesDir schema frameworks
    else pure []
  Action.info "isolation" s!"Component schema saved: {name}"
  Action.info "isolation" s!"  Schema: {schemaFile.text}"
  Action.info "isolation" s!"  Types: {typesFile.text}"
  Action.info "isolation" s!"  Validation: {rulesFile.text}"
  return ⟨name, schemaFile, typesFile, rulesFile, templates⟩

/-- Isolates a component of a project. -/
def isolateOne (p : Project) (source outputDir : Path) (includeTemplates : Bool)
    (frameworks : List String) : Action IsolatedFiles := do
  let s ← p.settings
  isolate ⟨source, outputDir, none, includeTemplates, frameworks, s.templatesDir⟩ s.classification

end Project

end PropForge
