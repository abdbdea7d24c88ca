import PropForge.Component.Generation
import PropForge.File.Disk
import PropForge.Route.Basic
import PropForge.Settings.Basic

/-!
Why a command fails: the causes of all parts of the program in one type, with what each says.
-/

namespace PropForge

/-- Why a file's text cannot be had. -/
inductive ReadFault where
  | disk (fault : DiskFault)
  | bytes (fault : Text.ByteFault)
  deriving DecidableEq, Repr

def ReadFault.message : ReadFault → String
  | disk f => f.message
  | bytes f => f.message

inductive Failure where
  /-- There is no source at a path. -/
  | sourceMissing (path : String)
  /-- The source at a path cannot be read. -/
  | sourceUnreadable (path : String) (fault : ReadFault)
  /-- A source has no interface of props. -/
  | noInterface
  | settings (fault : SettingsFault)
  /-- A settings document has a value that is not what it is said to be. -/
  | settingsValue (fault : Yaml.Fault)
  | classification (fault : Classification.OverrideFault)
  | generator (refusal : Generator.Refusal)
  | template (error : Template.Error)
  | disk (fault : DiskFault)
  /-- A file that should hold a text holds none. -/
  | undecodable (fault : Text.ByteFault)
  | route (fault : RouteFault)
  /-- The home of a user is not known. -/
  | noHome
  | manifestThere (path : String)
  | noManifest (root : String)
  deriving DecidableEq, Repr

namespace Failure

def ofRead : ReadFault → Failure
  | .disk f => disk f
  | .bytes f => undecodable f

def message : Failure → String
  | sourceMissing path => s!"FILE_NOT_FOUND: {path}"
  | sourceUnreadable path f => s!"PARSE_ERROR: Could not parse {path}: {f.message}"
  | noInterface => "Could not find component interface"
  | settings f => f.message
  | settingsValue f => f.message
  | classification f => f.message
  | generator r => r.message
  | template e => e.message
  | disk f => f.message
  | undecodable f => f.message
  | route f => f.message
  | noHome => "Could not determine home directory."
  | manifestThere path => s!"Manifest already exists at {path}"
  | noManifest root => s!"No .build.json found from {root}"

/-- Failures to find, read or understand a component's source. -/
def isExtraction : Failure → Bool
  | sourceMissing _ | sourceUnreadable .. | noInterface => true
  | _ => false

/-- Failures because something is, or is not, where a path leads. -/
def isPresence : Failure → Bool
  | disk f => f.cause = .missing || f.cause = .alreadyThere
  | manifestThere _ | noManifest _ => true
  | _ => false

/-- Failures of the file system; a template that is not found is one. -/
def isSystem : Failure → Bool
  | disk _ | manifestThere _ | noManifest _ | template (.noTemplate ..) => true
  | _ => false

/-- Failures because a value is not one of those allowed. -/
def isValue : Failure → Bool
  | generator _ | undecodable _ | template (.undecodable _) => true
  | classification (.unknownTable _) => true
  | settingsValue f => match f with
    | .emptyNumber | .notTruth _ | .notMoment => false
    | _ => true
  | _ => false

end Failure

end PropForge
