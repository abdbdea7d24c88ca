import PropForge.Project.Basic

/-!
Generating the files of components. Each part that is wanted is rendered and written before the
next one, so that a failure leaves the files before it; a component that fails does not keep the
others from being generated.
-/

namespace PropForge

/-- Settings for one run, each of which stands for the project's own if it is there. -/
structure GenerateChoices where
  framework : Option String
  outputDir : Option Path
  includeTests : Option Bool
  includeStories : Option Bool
  includeTypes : Option Bool
  includeDocumentation : Option Bool
  includeConfig : Option Bool
  includeStyles : Option Bool
  deriving DecidableEq, Repr

namespace GenerateSettings

/-- The settings with the choices of a run in their places. Files go to a directory of the project
unless another one is set. -/
def choose (s : GenerateSettings) (root : Path) (c : GenerateChoices) : GenerateSettings where
  framework := c.framework.getD s.framework
  outputDir := some ((c.outputDir.or s.outputDir).getD (root.child "generated"))
  includeTests := c.includeTests.getD s.includeTests
  includeStories := c.includeStories.getD s.includeStories
  includeTypes := c.includeTypes.getD s.includeTypes
  includeDocumentation := c.includeDocumentation.getD s.includeDocumentation
  includeConfig := c.includeConfig.getD s.includeConfig
  includeStyles := c.includeStyles.getD s.includeStyles

/-- The parts that are wanted, in the order in which they are written. -/
def parts (s : GenerateSettings) : List Part :=
  [(true, Part.component), (s.includeTypes, .types), (s.includeTests, .tests),
    (s.includeStories, .stories), (s.includeDocumentation, .documentation),
    (s.includeConfig, .config), (s.includeStyles, .styles)].filterMap fun (wanted, part) =>
      if wanted then some part else none

end GenerateSettings

/-- The templates in a directory of the disk. -/
def Disk.templates (d : Disk) (directory : Path) : Template.Directory where
  name := directory.text
  file? names := match d.at? ⟨directory.root, directory.names ++ names⟩ with
    | some (.file c) => some c.readText
    | _ => none

namespace Project

/-- The text of a part, by the templates that are on the disk now. -/
def renderPart (templatesDir : Option Path) (g : Generator) (part : Part) : Action String := do
  let d ← Action.disk
  match g.render (Template.library (templatesDir.map d.templates)) part with
  | .ok s => return s
  | .error e => throw (.template e)

/-- A generator for a schema. -/
def generatorFor (tables : Classification) (framework : String) (schema : Schema) :
    Action Generator :=
  match Generator.make tables framework schema with
  | .ok g => return g
  | .error r => throw (.generator r)

/-- Writes a file, in a directory that is made if it is not there. -/
def writeInto (directory : Path) (name text : String) : Action Path := do
  Action.makeDirectories directory
  let p := directory.child name
  Action.write p text
  Action.info "generators" s!"Generated {p.text}"
  return p

/-- Renders and writes parts in turn. -/
def writeParts (directory : Path) (templatesDir : Option Path) (g : Generator) :
    List Part → Action (List Path)
  | [] => return []
  | part :: rest => do
    let text ← renderPart templatesDir g part
    let p ← writeInto directory (g.fileName part) text
    return p :: (← writeParts directory templatesDir g rest)

/-- The settings for a run. -/
def generateSettings (p : Project) (s : Settings) (c : GenerateChoices) : GenerateSettings :=
  s.generate.choose p.root c

/-- Generates the files of one component. -/
def generateOne (p : Project) (s : Settings) (run : GenerateSettings) (file : Path) :
    Action (List Path) := do
  let schema ← extractSchema (← sourceOf file) s.classification
  let g ← generatorFor s.classification run.framework schema
  let output := run.outputDir.getD (p.root.child "generated")
  writeParts (output.join (.ofText schema.contract.componentName)) s.templatesDir g run.parts

/-- What became of a batch: the files written for each path, and why others failed. -/
structure Outcome where
  written : List (Path × List Path)
  failures : List (Path × String)
  deriving DecidableEq, Repr

def Outcome.isComplete (o : Outcome) : Bool := o.failures.isEmpty

/-- Whether a batch goes on after a failure. -/
def isTolerated (f : Failure) : Bool := f.isExtraction || f.isValue || f.isSystem

/-- Generates one component of a batch. -/
def generateStep (p : Project) (s : Settings) (run : GenerateSettings) (o : Outcome)
    (file : Path) : Action Outcome := do
  match ← Action.attempt (p.generateOne s run file) with
  | .ok paths => return { o with written := Assoc.put file paths o.written }
  | .error f =>
    if !isTolerated f then throw f
    Action.log .error "orchestrator" s!"Failed to generate {file.text}: {f.message}"
    return { o with failures := Assoc.put file f.message o.failures }

/-- Generates every component of a batch. -/
def generate (p : Project) (s : Settings) (run : GenerateSettings) (files : List Path) :
    Action Outcome := do
  let o ← files.foldlM (p.generateStep s run) ⟨[], []⟩
  Action.info "orchestrator"
    s!"Generated {count o.written} component(s), {count o.failures} failed"
  return o

end Project

end PropForge
