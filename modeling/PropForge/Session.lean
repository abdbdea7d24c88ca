import PropForge.Failure
import PropForge.Log

/-!
What commands work on: a disk, the log, what was written to the console, and the time. A command
that fails leaves what it did before it failed.
-/

namespace PropForge

structure Session where
  disk : Disk
  log : Log
  now : Timestamp
  output : String
  errorOutput : String

/-- A command, which changes a session and fails or has a result. -/
abbrev Action := ExceptT Failure (StateM Session)

namespace Session

/-- Shows a record through a handler. -/
def handle (r : LogRecord) (s : Session) : Handler → Session
  | .silent => s
  | .console lowest =>
    if lowest.passes r.severity then { s with errorOutput := s.errorOutput ++ r.consoleLine }
    else s
  | .file path lowest =>
    if lowest.passes r.severity then { s with disk := s.disk.append path (r.fileLine s.now) }
    else s

/-- Gives a record to all handlers in turn. Of a record that does not come up to the program's logger
the console shows the bare message, if it is a warning or worse. -/
def emit (r : LogRecord) (s : Session) : Session :=
  if r.isOwn then
    if s.log.lowest.passes r.severity then s.log.handlers.foldl (·.handle r) s else s
  else if Severity.warning.passes r.severity then
    { s with errorOutput := s.errorOutput ++ r.message ++ "\n" }
  else s

end Session

namespace Action

def log (severity : Severity) (part message : String) : Action Unit :=
  modify (·.emit ⟨severity, LogRecord.loggerName part, message⟩)

def debug (part message : String) : Action Unit := log .debug part message

def info (part message : String) : Action Unit := log .info part message

def print (s : String) : Action Unit :=
  modify fun session => { session with output := session.output ++ s }

def printLine (s : String) : Action Unit := print (s ++ "\n")

def disk : Action Disk := return (← get).disk

/-- Changes the disk, or fails as the change does. -/
def change (f : Disk → Except DiskFault Disk) : Action Unit := do
  match f (← disk) with
  | .ok d => modify fun s => { s with disk := d }
  | .error fault => throw (.disk fault)

def write (p : Path) (s : String) : Action Unit := change (·.write p (.text s))

/-- Makes a directory with all those above it. -/
def makeDirectories (p : Path) : Action Unit := do
  let (d, fault) := (← disk).makeDirectories p
  modify fun s => { s with disk := d }
  match fault with
  | none => return
  | some f => throw (.disk f)

/-- The text of a file, with its line breaks unified. -/
def tryRead (p : Path) : Action (Except ReadFault String) := do
  match (← disk).content p with
  | .error f => return .error (.disk f)
  | .ok c => match c.readText with
    | .error f => return .error (.bytes f)
    | .ok s => return .ok s

def read (p : Path) : Action String := do
  match ← tryRead p with
  | .ok s => return s
  | .error f => throw (.ofRead f)

def absolute (p : Path) : Action Path := return (← disk).absolute p

/-- A path that starts at a home directory, from there. -/
def expandHome (p : Path) : Action Path := do
  match (← disk).expandHome p with
  | some p => return p
  | none => throw .noHome

/-- A path as seen from the current directory if it is below it, and otherwise as it is. -/
def shortened (p : Path) : Action String := do
  let d ← disk
  match Path.relativeTo? (.ofNames d.here) (d.absolute p) with
  | some q => return q.text
  | none => return p.text

/-- Whether something fails, and how, without failing. -/
def attempt {α : Type} (a : Action α) : Action (Except Failure α) := do
  tryCatch (return .ok (← a)) fun f => return .error f

/-- Sets the log up anew: the console shows what happens, with `verbose` in detail; a file, if
there is one, records it in detail. -/
def configureLog (verbose : Bool) (file : Option Path) : Action Unit := do
  let lowest : Severity := if verbose then .debug else .info
  modify fun s => { s with log := { s.log with handlers := [.console lowest] } }
  match file with
  | none => modify fun s => { s with log := { s.log with lowest } }
  | some path =>
    makeDirectories path.parent
    let path ← absolute path
    if !(← disk).isFile path then write path ""
    modify fun s => { s with
      log := { lowest := .debug, handlers := s.log.handlers ++ [.file path .debug] } }

end Action

end PropForge
