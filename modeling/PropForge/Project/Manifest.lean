import PropForge.Json.Reader
import PropForge.Project.Basic

/-!
A project's build manifest: a JSON object in the project's directory. The nearest one above a
directory is its manifest.
-/

namespace PropForge

namespace Manifest

def fileName : String := ".build.json"

/-- The fields that a manifest must have. -/
def requiredFields : List String := ["version", "lastModified", "scaffold", "layouts", "routes"]

/-- Whether a value is an object with all fields of a manifest. -/
def isValid : Json → Bool
  | .object fields => requiredFields.all fun name => (Assoc.get? name fields).isSome
  | _ => false

/-- A part of a page that is shown. -/
def enabled : Json := .object [("enabled", .bool true)]

/-- The manifest of a new project. -/
def initial (now : Timestamp) : List (String × Json) :=
  [("version", .string "1.0.0"), ("lastModified", .string now.text),
    ("scaffold", .object [("path", .string "src/app"),
      ("layouts", .object [("masthead", enabled), ("sidebar", enabled), ("main", enabled)])]),
    ("layouts", .array []), ("components", .array []), ("routes", .array [])]

/-- A manifest with the time of its last change. -/
def stamped (now : Timestamp) (m : List (String × Json)) : List (String × Json) :=
  Assoc.put "lastModified" (.string now.text) m

/-- The nearest manifest, in the directory that `names` spell backwards or above it. -/
def findFrom (d : Disk) : List String → Option Path
  | [] =>
    let p := Path.ofNames [fileName]
    if d.isFile p then some p else none
  | name :: above =>
    let p := Path.ofNames ((name :: above).reverse ++ [fileName])
    if d.isFile p then some p else findFrom d above

/-- The manifest of a directory. -/
def find? (d : Disk) (start : Path) : Option Path :=
  findFrom d (d.absolute start).names.reverse

end Manifest

namespace Project

/-- What the manifest of a directory says, nothing if there is none or it is no object. A manifest
that holds no text is refused. -/
def readManifest (start : Path) : Action (Option (List (String × Json))) := do
  let refuse (message : String) : Action (Option (List (String × Json))) := do
    Action.log .error "manifest" message
    return none
  match Manifest.find? (← Action.disk) start with
  | none => return none
  | some p => match ← Action.tryRead p with
    | .error (.bytes f) => throw (.undecodable f)
    | .error (.disk f) => refuse s!"Error reading manifest {p.text}: {f.message}"
    | .ok text => match Json.parse text.toList with
      | .ok (.object fields) => return some fields
      | .ok _ => refuse s!"Manifest {p.text} does not contain an object"
      | .error f =>
        let reason := f.message text.toList
        refuse s!"Error reading manifest {p.text}: {reason}"

/-- Stores a manifest in a directory, with the time. -/
def writeManifest (manifest : List (String × Json)) (directory : Path) : Action Path := do
  let p := directory.child Manifest.fileName
  Action.write p (Json.document (.object (Manifest.stamped (← get).now manifest)))
  Action.debug "manifest" s!"Wrote manifest {p.text}"
  return p

/-- Gives a project a manifest, unless it has one. -/
def initManifest (p : Project) : Action Path := do
  match Manifest.find? (← Action.disk) p.root with
  | some existing =>
    if existing.parent = p.root then throw (.manifestThere existing.text)
  | none => pure ()
  writeManifest (Manifest.initial (← get).now) p.root

/-- The text of a project's manifest. -/
def showManifest (p : Project) : Action String := do
  match ← readManifest p.root with
  | some fields => return Json.document (.object fields)
  | none => throw (.noManifest p.root.text)

end Project

end PropForge
