import PropForge.File.Tree

/-!
What has to be done to a file system so that it holds a later tree where it held an earlier one.
Nothing is ever taken away.
-/

namespace PropForge

inductive Change where
  | makeDirectory (place : List String)
  | writeFile (place : List String) (content : Content)
  deriving DecidableEq, Repr

namespace Change

/-- Whether a file has to be written. -/
def isNew (before : Option FileTree) (c : Content) : Bool :=
  match before with
  | some (.file old) => old ≠ c
  | _ => true

/-- Whether a directory has to be made. -/
def lacksDirectory : Option FileTree → Bool
  | some (.directory _) => false
  | _ => true

mutual

/-- The changes that lead from one tree to another, which is at a place. A directory is made before
what is in it. -/
def between (place : List String) (before : Option FileTree) (after : FileTree) : List Change :=
  match after with
  | .file c => if isNew before c then [writeFile place c] else []
  | .directory entries =>
    (if lacksDirectory before then [makeDirectory place] else []) ++
      betweenEntries place before entries

/-- The changes for the entries of a directory. -/
def betweenEntries (place : List String) (before : Option FileTree)
    (entries : List (String × FileTree)) : List Change :=
  match entries with
  | [] => []
  | (name, t) :: rest =>
    between (place ++ [name]) (before.bind (FileTree.at? [name])) t ++
      betweenEntries place before rest

end

end Change

end PropForge
