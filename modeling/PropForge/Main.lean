import PropForge.Calendar
import PropForge.CommandLine.Run
import PropForge.File.Changes

/-!
The program: what a command line concerns is read from the disk, the command is run on it, and what
it changed is written back.
-/

namespace PropForge.Program

/-- The present moment, which the file system stamps on a new file. -/
def now : IO Timestamp := do
  let (_, place) ← IO.FS.createTempFile
  let stamp := (← place.metadata).modified
  IO.FS.removeFile place
  return Calendar.ofSeconds stamp.sec.toNat (stamp.nsec.toNat / 1000)

/-- A file, or a directory with what is below it down to a depth. -/
def load : Nat → String → IO FileTree
  | depth, place => do
    let there ← IO.FS.realPath place
    if !(← there.isDir) then return .file (.ofBytes (← IO.FS.readBinFile there).toList)
    match depth with
    | 0 => return .empty
    | depth + 1 =>
      let entries ← (← there.readDir).toList.filterMapM fun e => do
        if ← e.path.pathExists then return some (e.fileName, ← load depth e.path.toString)
        else return none
      return .directory entries

/-- Adds what is at a place, if there is anything that can be read. -/
def addPlace (depth : Nat) (tree : FileTree) (names : List String) : IO FileTree := do
  try
    return FileTree.put (← load depth (Path.ofNames names).text) names tree
  catch _ => return tree

/-- Adds what is at a place and the directories that lead there, with their settings and
manifests. -/
def addWay (tree : FileTree) (names : List String) : IO FileTree := do
  let mut tree := tree
  for n in List.range (names.length + 1) do
    let above := names.take n
    let beside := [above, above ++ [settingsFile], above ++ [Manifest.fileName]]
    for place in beside do
      if (tree.at? place).isNone then tree ← addPlace 0 tree place
  return tree

/-- Adds what is at paths down to a depth, and what leads there. -/
def addPaths (depth : Nat) (d : Disk) (paths : List Path) : IO Disk := do
  let mut tree := d.tree
  for p in paths do
    let names := (d.absolute ((d.expandHome p).getD p)).names
    tree ← addWay tree names
    if 0 < depth then tree ← addPlace depth tree names
  return { d with tree }

/-- The paths of a request at which single files are read or written. -/
def filePaths (r : CommandLine.Request) : List Path :=
  r.logFile.toList ++ match r.command with
    | .extract file _ output => file :: output.toList
    | .generate files _ => files
    | .isolate file .. => [file]
    | .syncRoutes root | .initManifest root | .showManifest root => [root]

/-- The directories of a request in which directories of components are written. -/
def outputPaths (s : Settings) (r : CommandLine.Request) : List Path :=
  match r.command with
  | .generate _ choices => ((s.generate.choose s.root choices).outputDir).toList
  | .isolate _ outputDir .. => [outputDir]
  | _ => []

/-- How deep files lie in a directory in which directories of components are written. -/
def outputDepth : Nat := 3

/-- How deep pages and templates may lie. -/
def sourceDepth : Nat := 100

/-- Adds what a request concerns. Shallow readings come last, so as not to be replaced. -/
def addRequest (before : Session) (r : CommandLine.Request) : IO Disk := do
  let root := r.command.root
  let d ← addPaths 0 before.disk [root]
  let d ← match ((Settings.load root).run.run { before with disk := d }).1 with
    | .error _ => pure d
    | .ok s => do
      let d ← addPaths outputDepth d (outputPaths s r)
      let pages := s.root.join (.ofText s.routes.appDir)
      let stored := s.root.join (.ofText s.routes.manifestPath)
      let d ← addPaths sourceDepth d s.templatesDir.toList
      if r.command.name = "sync-routes" then
        addPaths 0 (← addPaths sourceDepth d [pages]) [stored]
      else pure d
  addPaths 0 d (filePaths r)

/-- The session in which a command line is run. -/
def start (words : List String) : IO Session := do
  let here := Path.ofText (← IO.currentDir).toString
  let home := Path.ofText ((← IO.getEnv "HOME").getD "/")
  let disk ← addPaths 0 ⟨.empty, here.names, home⟩ [here]
  let session : Session := ⟨disk, .initial, ← now, "", ""⟩
  match CommandLine.request words with
  | .error _ => return session
  | .ok r => return { session with disk := ← addRequest session r }

/-- Does to the disk what was done in a session. -/
def carryOut : Change → IO Unit
  | .makeDirectory names => IO.FS.createDirAll (Path.ofNames names).text
  | .writeFile names content =>
    IO.FS.writeBinFile (Path.ofNames names).text content.toBytes.toByteArray

end PropForge.Program

open PropForge in
def main (words : List String) : IO UInt32 := do
  let before ← Program.start words
  let (result, after) := (CommandLine.run words).run before
  (Change.between [] (some before.disk.tree) after.disk.tree).forM Program.carryOut
  (← IO.getStdout).putStr after.output
  (← IO.getStderr).putStr after.errorOutput
  match result with
  | .ok code => return code.toUInt32
  | .error f =>
    (← IO.getStderr).putStr (f.message ++ "\n")
    return 1
