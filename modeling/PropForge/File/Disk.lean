import PropForge.File.Path
import PropForge.File.Tree
import PropForge.Text.SingleQuoted

/-!
A disk: a tree of files, the directory in which one stands and the home directory. Paths are
followed name by name, as a file system does; an operation that cannot be done says why.
-/

namespace PropForge

/-- Why an operation on the disk failed, with the path it was given. -/
inductive DiskCause where
  | missing | alreadyThere | notDirectory | isDirectory
  deriving DecidableEq, Repr

def DiskCause.number : DiskCause → Nat
  | missing => 2
  | alreadyThere => 17
  | notDirectory => 20
  | isDirectory => 21

def DiskCause.text : DiskCause → String
  | missing => "No such file or directory"
  | alreadyThere => "File exists"
  | notDirectory => "Not a directory"
  | isDirectory => "Is a directory"

structure DiskFault where
  cause : DiskCause
  path : String
  deriving DecidableEq, Repr

def DiskFault.message (f : DiskFault) : String :=
  let number := String.ofList (Number.digits f.cause.number)
  s!"[Errno {number}] {f.cause.text}: {Text.shown f.path}"

structure Disk where
  tree : FileTree
  /-- The names that lead from the root to the directory in which one stands. -/
  here : List String
  home : Path

namespace Disk

/-- Follows one name from a directory. -/
def step (tree : FileTree) (place : List String) (name : String) :
    Except DiskCause (List String) :=
  match tree.at? place with
  | some (.directory _) => .ok (if name = ".." then place.dropLast else place ++ [name])
  | some (.file _) => .error .notDirectory
  | none => .error .missing

/-- The place that a path leads to. All but the last name must lead to directories. -/
def locate (d : Disk) (p : Path) : Except DiskCause (List String) :=
  p.names.foldlM (step d.tree) (if p.root = "" then d.here else [])

/-- What is at a path, if there is anything. -/
def at? (d : Disk) (p : Path) : Option FileTree :=
  match d.locate p with
  | .ok place => d.tree.at? place
  | .error _ => none

def isThere (d : Disk) (p : Path) : Bool := (d.at? p).isSome

def isFile (d : Disk) (p : Path) : Bool := ((d.at? p).map FileTree.isFile).getD false

def isDirectory (d : Disk) (p : Path) : Bool := ((d.at? p).map FileTree.isDirectory).getD false

/-- The same place from the root, without double dots. It need not be there. -/
def absolute (d : Disk) (p : Path) : Path :=
  let start := if p.root = "" then d.here else []
  { root := if p.root = "//" then "//" else "/"
    names := p.names.foldl (fun place n => if n = ".." then place.dropLast else place ++ [n])
      start }

/-- What a file holds. -/
def content (d : Disk) (p : Path) : Except DiskFault Content :=
  match d.locate p with
  | .error c => .error ⟨c, p.text⟩
  | .ok place => match d.tree.at? place with
    | some (.file c) => .ok c
    | some (.directory _) => .error ⟨.isDirectory, p.text⟩
    | none => .error ⟨.missing, p.text⟩

/-- What the entries of a directory are, none if it is no directory. -/
def entries (d : Disk) (p : Path) : List (String × FileTree) :=
  match d.at? p with
  | some (.directory es) => FileTree.sortedEntries es
  | _ => []

/-- Writes a file whose directory is there, over what it held before. -/
def write (d : Disk) (p : Path) (c : Content) : Except DiskFault Disk :=
  match d.locate p with
  | .error cause => .error ⟨cause, p.text⟩
  | .ok place =>
    match d.tree.at? place.dropLast, d.tree.at? place with
    | _, some (.directory _) => .error ⟨.isDirectory, p.text⟩
    | some (.directory _), _ => .ok { d with tree := FileTree.put (.file c) place d.tree }
    | some (.file _), _ => .error ⟨.notDirectory, p.text⟩
    | none, _ => .error ⟨.missing, p.text⟩

/-- Makes one directory whose own directory is there. -/
def makeDirectory (d : Disk) (p : Path) : Except DiskFault Disk :=
  match d.locate p with
  | .error cause => .error ⟨cause, p.text⟩
  | .ok place =>
    if (d.tree.at? place).isSome then .error ⟨.alreadyThere, p.text⟩
    else match d.tree.at? place.dropLast with
      | some (.directory _) => .ok { d with tree := FileTree.put .empty place d.tree }
      | some (.file _) => .error ⟨.notDirectory, p.text⟩
      | none => .error ⟨.missing, p.text⟩

/-- Makes a directory that may be there already. A failure leaves the disk as it was. -/
def settleDirectory (d : Disk) (p : Path) : Disk × Option DiskFault :=
  match d.makeDirectory p with
  | .ok made => (made, none)
  | .error f => (d, if f.cause ≠ .missing && d.isDirectory p then none else some f)

/-- Makes a directory and all on the way to it that are missing. `names` are those of its path from
the last to the first. -/
def makeDirectoriesAt (d : Disk) (root : String) : List String → Disk × Option DiskFault
  | [] => d.settleDirectory ⟨root, []⟩
  | name :: above =>
    let p : Path := ⟨root, (name :: above).reverse⟩
    match d.makeDirectory p with
    | .error ⟨.missing, _⟩ =>
      match d.makeDirectoriesAt root above with
      | (d, none) => d.settleDirectory p
      | (d, some f) => (d, some f)
    | _ => d.settleDirectory p

/-- Makes a directory with all those above it, as far as they are missing. What was made before a
failure stays. -/
def makeDirectories (d : Disk) (p : Path) : Disk × Option DiskFault :=
  d.makeDirectoriesAt p.root p.names.reverse

/-- Adds a text at the end of a file if the file is there. -/
def append (d : Disk) (p : Path) (s : String) : Disk :=
  match d.content p with
  | .ok c => match d.write p (c.append s) with
    | .ok d => d
    | .error _ => d
  | .error _ => d

/-- A path that starts with a tilde from the home directory. Other homes are not known. -/
def expandHome (d : Disk) (p : Path) : Option Path :=
  match p.root, p.names with
  | "", "~" :: rest => some ⟨d.home.root, d.home.names ++ rest⟩
  | "", name :: _ => if name.toList.head? = some '~' then none else some p
  | _, _ => some p

end Disk

end PropForge
