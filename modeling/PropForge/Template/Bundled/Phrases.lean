import PropForge.Template.Basic

/-!
Short forms in which the bundled templates are written.
-/

namespace PropForge.Template.Bundled

/-- What the view of the component says under a name. -/
def view (field : String) : Expr := .field (.name "ctx") field

/-- A field of what a loop runs over. -/
def part (owner field : String) : Expr := .field (.name owner) field

/-- A value through a filter. -/
def via (filter : String) (e : Expr) : Expr := .filter e filter [] []

/-- The items of a list with a separator between each two. -/
def joined (separator : String) (e : Expr) : Expr := .filter e "join" [.text separator] []

/-- The items of a list, each through a filter. -/
def mapped (filter : String) (e : Expr) : Expr := .filter e "map" [.text filter] []

/-- A field of each item of a list. -/
def picked (field : String) (e : Expr) : Expr :=
  .filter e "map" [] [("attribute", .text field)]

/-- The body for each item of a list. -/
def each (target : String) (items : Expr) (body : List Piece) : Piece :=
  .loop target items none body []

end PropForge.Template.Bundled
