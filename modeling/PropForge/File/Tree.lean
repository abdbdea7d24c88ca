import PropForge.Assoc
import PropForge.Text.Blank
import PropForge.Text.Utf8

/-!
A tree of files and directories as a value. What a file holds is a text, or bytes that spell none.
-/

namespace PropForge

/-- What a file holds. -/
inductive Content where
  | text (value : String)
  | bytes (value : List UInt8)
  deriving DecidableEq, Repr

namespace Content

/-- Bytes, as the text that they spell if they do. -/
def ofBytes (bs : List UInt8) : Content :=
  match Text.decode bs with
  | .ok s => text s
  | .error _ => bytes bs

def toBytes : Content → List UInt8
  | text s => s.toUTF8.toList
  | bytes bs => bs

/-- The text that is held, character for character. -/
def exactText : Content → Except Text.ByteFault String
  | text s => .ok s
  | bytes bs => Text.decode bs

/-- The text that is held, each line ended by a line feed. -/
def readText (c : Content) : Except Text.ByteFault String := do
  return String.ofList (Text.unifyBreaks (← c.exactText).toList)

/-- What is held after a text is added at the end. -/
def append (s : String) : Content → Content
  | text t => text (t ++ s)
  | bytes bs => ofBytes (bs ++ s.toUTF8.toList)

end Content

/-- A file, or a directory with named entries. -/
inductive FileTree where
  | file (content : Content)
  | directory (entries : List (String × FileTree))

namespace FileTree

def empty : FileTree := directory []

def isFile : FileTree → Bool
  | file _ => true
  | directory _ => false

def isDirectory : FileTree → Bool
  | file _ => false
  | directory _ => true

/-- What is at a place, given by the names that lead there. -/
def at? : List String → FileTree → Option FileTree
  | [], t => some t
  | name :: rest, directory entries => (Assoc.get? name entries).bind (at? rest)
  | _ :: _, file _ => none

/-- The tree with `new` at a place. Directories on the way that are missing are made; nothing is
put below a file. -/
def put (new : FileTree) : List String → FileTree → FileTree
  | [], _ => new
  | name :: rest, directory entries =>
    directory (Assoc.put name (put new rest ((Assoc.get? name entries).getD empty)) entries)
  | _ :: _, file c => file c

/-- The tree without what is at a place. -/
def erase : List String → FileTree → FileTree
  | [], _ => empty
  | [name], directory entries => directory (entries.filter fun (n, _) => n ≠ name)
  | name :: rest, directory entries =>
    match Assoc.get? name entries with
    | some t => directory (Assoc.put name (erase rest t) entries)
    | none => directory entries
  | _ :: _, file c => file c

/-- The names in a directory by code point. -/
def sortedEntries (entries : List (String × FileTree)) : List (String × FileTree) :=
  entries.mergeSort fun (m, _) (n, _) => m ≤ n

end FileTree

end PropForge
