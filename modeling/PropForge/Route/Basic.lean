import PropForge.Json.Basic
import PropForge.Text.Case
import PropForge.Text.Search

/-!
Routes: the entries of a site's navigation. A route is a JSON object; some of its fields have a
meaning here, and all others are kept as they are.
-/

namespace PropForge

/-- A route by its fields, each name once. -/
abbrev Route := List (String × Json)

namespace Route

def field? (name : String) (r : Route) : Option Json := Assoc.get? name r

/-- The path of a route. Without one it is nothing, which is a path like others. -/
def path (r : Route) : Json := (r.field? "path").getD .null

/-- Whether a field is a number; truth values are none. -/
def isNumber : Option Json → Bool
  | some (.integer _) => true
  | some (.real _) => true
  | _ => false

/-- Whether a route says itself where it stands. -/
def hasExplicitOrder (r : Route) : Bool :=
  isNumber (r.field? "order") || isNumber (r.field? "priority")

def isHidden (r : Route) : Bool := ((r.field? "hidden").map Json.truthy).getD false

/-- A title made of a path's names, each with a capital. -/
def title (path : String) : String :=
  if path = "/" then "Home"
  else
    let names := (Text.words (· = '/') path.toList).map String.ofList
    " ".intercalate (names.map Text.upperFirst)

/-- The route of a page. -/
def ofPath (path : String) : Route := [("path", .string path), ("title", .string (title path))]

def toJson (r : Route) : Json := .object r

end Route

/-- Why routes cannot be brought together or put in order. -/
inductive RouteFault where
  /-- A discovered route has no path. -/
  | noPath
  /-- A path is of a kind that cannot be looked up. -/
  | unusablePath (kind : String)
  /-- A position is too large to compare. -/
  | tooLarge
  deriving DecidableEq, Repr

def RouteFault.message : RouteFault → String
  | noPath => "'path'"
  | unusablePath kind => s!"unhashable type: '{kind}'"
  | tooLarge => "int too large to convert to float"

end PropForge
