import PropForge.File.Tree
import PropForge.Route.Basic

/-!
Routes from files: every directory below an app's directory that holds a page is a route.
Directories and files whose names start with an underscore are private.
-/

namespace PropForge.Route

def pageFile : String := "page.tsx"

def isPrivate (name : String) : Bool := name.toList.head? = some '_'

mutual

/-- The names that lead to the directories with pages, entries in the order of their names. `above`
leads to the tree itself. -/
def pagePlaces (above : List String) (t : FileTree) : List (List String) :=
  match t with
  | .file _ => []
  | .directory entries =>
    ((placesIn above entries).mergeSort fun (m, _) (n, _) => m ≤ n).flatMap (·.2)

/-- For each entry of a directory its name and the places with pages to which it leads. -/
def placesIn (above : List String) (entries : List (String × FileTree)) :
    List (String × List (List String)) :=
  match entries with
  | [] => []
  | (name, t) :: rest =>
    let places :=
      if isPrivate name then []
      else match t with
        | .file _ => if name = pageFile then [above] else []
        | .directory es => pagePlaces (above ++ [name]) (.directory es)
    (name, places) :: placesIn above rest

end

/-- The route of a place in an app's directory. -/
def ofPlace (names : List String) : Route := ofPath ("/" ++ "/".intercalate names)

/-- The routes of an app's directory. -/
def scan (app : FileTree) : List Route := (pagePlaces [] app).map ofPlace

end PropForge.Route
