import PropForge.Session

/-!
Settings from the disk. A settings file that is not there states nothing; whatever file a path
names, the settings file beside it is meant.
-/

namespace PropForge.Settings

/-- The settings file that belongs to a path: in it, if it is a directory, or beside it. -/
def fileFor (d : Disk) (p : Path) : Path :=
  if d.isDirectory p then d.absolute (p.child settingsFile)
  else if p.name = settingsFile then d.absolute p
  else d.absolute (p.parent.child settingsFile)

/-- The settings that a text states. A blank text states none. -/
def ofText (root : Path) (text : String) : Except Failure Settings :=
  if (Text.strip text.toList).isEmpty then .ok (standard root)
  else match Yaml.parse text with
    | .error .malformed => .error (.settings .malformed)
    | .error f => .error (.settingsValue f)
    | .ok v => match ofYaml root v with
      | .error f => .error (.settings f)
      | .ok s => .ok s

/-- The settings that belong to a path. -/
def load (p : Path) : Action Settings := do
  let p ← Action.expandHome p
  let d ← Action.disk
  let file := fileFor d p
  if !d.isThere file then return standard file.parent
  match ofText file.parent (← Action.read file) with
  | .ok s => return s
  | .error f => throw f

end PropForge.Settings
