import PropForge.Component.Summary
import PropForge.Json.Writer
import PropForge.Project.Extract
import PropForge.Schema.Document
import PropForge.Settings.Load

/-!
Projects: a directory with settings, and what is asked of single components under these settings.
-/

namespace PropForge

/-- A project by its directory. -/
structure Project where
  root : Path
  deriving DecidableEq, Repr

namespace Project

/-- The project of a directory. -/
def inDirectory (directory : Path) : Action Project := do
  return ⟨← Action.absolute (← Action.expandHome directory)⟩

/-- The project's settings. -/
def settings (p : Project) : Action Settings := do
  let s ← Settings.load p.root
  Action.debug "orchestrator" s!"Loaded configuration from {s.root.text}"
  return s

/-- The file of a component, as it is asked for. -/
def sourceOf (file : Path) : Action Path := do
  let source ← Action.expandHome file
  Action.debug "orchestrator" s!"Extracting schema from {source.text}"
  return source

/-- The schema of a component of the project. -/
def extract (p : Project) (file : Path) : Action Schema := do
  let source ← sourceOf file
  let s ← p.settings
  extractSchema source s.classification

/-- The schema of a component as a summary, or as a document. -/
def extractText (p : Project) (file : Path) (asDocument : Bool) : Action String := do
  let schema ← p.extract file
  return if asDocument then Json.document schema.toJson else schema.summary

end Project

end PropForge
