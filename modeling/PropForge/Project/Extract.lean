import PropForge.Extraction
import PropForge.Session
import PropForge.Validation

/-!
Schemas from files: a source is read, described and checked, and the schema notes where it comes
from.
-/

namespace PropForge.Project

open TypeScript (Source Dialect)

/-- The dialect of a file, by its name. -/
def dialectOf (p : Path) : Dialect :=
  if ".ts".toList.isSuffixOf (Text.lower p.name).toList then .plain else .markup

/-- What the grammar of a dialect is called. -/
def grammarName : Dialect → String
  | .plain => "typescript"
  | .markup => "tsx"

/-- A file's source. -/
def loadSource (p : Path) : Action (Path × Source) := do
  let p ← Action.expandHome p
  let d ← Action.disk
  if !d.isThere p then throw (.sourceMissing p.text)
  let text ← match d.content p with
    | .error f => throw (.sourceUnreadable p.text (.disk f))
    | .ok c => match c.exactText with
      | .error f => throw (.sourceUnreadable p.text (.bytes f))
      | .ok s => pure s
  let source := Source.ofText (dialectOf p) text
  if source.isBroken then
    Action.debug "extractors.loader" s!"Syntax errors in {p.text}; continuing with partial tree"
  Action.debug "extractors.loader"
    s!"Parsed {p.text} with the {grammarName source.dialect} grammar"
  return (p, source)

def count {α : Type} (xs : List α) : String := String.ofList (Number.digits xs.length)

/-- Notes which of several interfaces is taken. -/
def noteChoice (p : Path) (source : Source) : Action Unit := do
  let names := (Extraction.propsInterfaces source).map fun s =>
    Extraction.childText source s.tree .name
  match names with
  | first :: _ :: _ =>
    let all := ", ".intercalate names
    Action.debug "extractors.schema_object"
      s!"Multiple props interfaces in {p.text} ({all}); using {first}"
  | _ => return

/-- What a source says about its component. -/
def describe (p : Path) (tables : Classification) (source : Source) : Action Contract := do
  noteChoice p source
  match Extraction.contract? tables source with
  | some c => return c
  | none => throw .noInterface

/-- The schema of the component in a file. It names the file as it was asked for. -/
def extractSchema (asked : Path) (tables : Classification) : Action Schema := do
  let (p, source) ← loadSource asked
  let contract ← describe p tables source
  let implementation := Extraction.implementation source
  let validation := contract.validate
  let counts := s!"{count contract.props} props, {count contract.events} events, " ++
    s!"{count contract.variants} variants, {count implementation.hooks} hooks"
  Action.debug "extractors" s!"Extracted {contract.componentName} from {p.text}: {counts}"
  for w in validation.warnings do
    Action.debug "extractors" s!"{w.code}: {w.message}"
  return {
    contract, implementation
    state := Extraction.stateUse source
    provenance := {
      sourceFile := asked.text
      extractedAt := (← get).now
      validation
      version := schemaVersion } }

end PropForge.Project
