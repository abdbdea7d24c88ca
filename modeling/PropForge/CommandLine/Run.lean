import PropForge.CommandLine.Commands
import PropForge.Project.Isolate
import PropForge.Project.Manifest
import PropForge.Project.Navigation

/-!
Running a command line: what it asks for is done, what was done is told on the console, and an
exit code says whether it succeeded.
-/

namespace PropForge.CommandLine

open PropForge.Action (printLine shortened)

/-- Writes to the console for errors. -/
def complain (s : String) : Action Unit :=
  modify fun session => { session with errorOutput := session.errorOutput ++ s }

/-- Tells a path under what it belongs to. -/
def printPath (p : Path) : Action Unit := do
  let place ← shortened p
  printLine s!"  {place}"

def runExtract (p : Project) (file : Path) (asDocument : Bool) (output : Option Path) :
    Action Nat := do
  let text ← p.extractText file asDocument
  match output with
  | none => Action.print text
  | some target =>
    Action.makeDirectories target.parent
    Action.write target text
    let place ← shortened target
    printLine s!"Schema written to {place}"
  return 0

/-- Fails if one of the components failed, and tells which. -/
def runGenerate (p : Project) (files : List Path) (choices : GenerateChoices) : Action Nat := do
  let s ← p.settings
  let o ← p.generate s (p.generateSettings s choices) files
  for (source, written) in o.written do
    printLine s!"{source.text}: {Project.count written} file(s) written"
    written.forM printPath
  if o.isComplete then return 0
  let failed := ", ".intercalate (o.failures.map fun (source, _) => source.text)
  complain s!"pfgen generate failed for: {failed}\n"
  return 1

def runIsolate (p : Project) (file outputDir : Path) (templates : Bool)
    (frameworks : List String) : Action Nat := do
  let files ← p.isolateOne file outputDir templates frameworks
  printLine s!"Component schema saved: {files.componentName}"
  files.paths.forM printPath
  return 0

def runSyncRoutes (p : Project) : Action Nat := do
  let synced ← p.sync
  let number (n : Nat) := String.ofList (Number.digits n)
  let added := if synced.added = 0 then "" else s!"  (+{number synced.added} added)"
  let removed := if synced.removed = 0 then "" else s!"  (-{number synced.removed} removed)"
  let target ← shortened synced.path
  printLine s!"Synced {Project.count synced.routes} routes -> {target}{added}{removed}"
  return 0

def runCommand (p : Project) : Command → Action Nat
  | .extract file asDocument output => runExtract p file asDocument output
  | .generate files choices => runGenerate p files choices
  | .isolate file outputDir templates frameworks => runIsolate p file outputDir templates frameworks
  | .syncRoutes _ => runSyncRoutes p
  | .initManifest _ => do
    let place ← shortened (← p.initManifest)
    printLine s!"Manifest created at {place}"
    return 0
  | .showManifest _ => do
    Action.print (← p.showManifest)
    return 0

/-- Failures that are told with the name of the command. -/
def isRefusal (f : Failure) : Bool :=
  f.isValue || match f with
    | .settings _ => true
    | _ => false

/-- Tells what a command failed of. A failure that is not foreseen is not told here. -/
def report (command : Command) (f : Failure) : Action Nat := do
  if f.isExtraction || f.isPresence then
    complain (f.message ++ "\n")
    return 1
  else if isRefusal f then
    complain (s!"pfgen {command.name} failed: {f.message}\n" ++
      "Run with --verbose for more details.\n")
    return 1
  else throw f

def runRequest (r : Request) : Action Nat := do
  Action.configureLog r.verbose r.logFile
  let p ← Project.inDirectory r.command.root
  match ← Action.attempt (runCommand p r.command) with
  | .ok code => return code
  | .error f => report r.command f

/-- Runs a command line. The result is the exit code. -/
def run (words : List String) : Action Nat := do
  match request words with
  | .ok r => runRequest r
  | .error (.help g) =>
    Action.print g.helpText
    return 0
  | .error (.misuse g e) =>
    complain (g.misuseText e)
    return 2

end PropForge.CommandLine
