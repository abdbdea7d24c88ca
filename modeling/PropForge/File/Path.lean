import PropForge.Text.Search

/-!
Paths: names between slashes, from a root or from wherever one stands. Empty names and single dots
say nothing and are left out; double dots stay, because only the disk tells what is above a name.
-/

namespace PropForge

/-- A path. Its root is empty if it does not start with a slash; two slashes at the start, neither
one nor three, are a root of their own. -/
structure Path where
  root : String
  names : List String
  deriving DecidableEq, Repr

namespace Path

def ofText (s : String) : Path :=
  let cs := s.toList
  let slashes := (cs.takeWhile (· = '/')).length
  let pieces := (Text.splitOn (· = '/') cs).map String.ofList
  { root := if slashes = 0 then "" else if slashes = 2 then "//" else "/"
    names := pieces.filter fun n => n ≠ "" && n ≠ "." }

/-- The path of one name. -/
def ofName (name : String) : Path := ⟨"", [name]⟩

/-- The path from the disk's root. -/
def ofNames (names : List String) : Path := ⟨"/", names⟩

/-- The text of a path; the path that goes nowhere is a dot. -/
def text (p : Path) : String :=
  if p.root = "" && p.names.isEmpty then "." else p.root ++ "/".intercalate p.names

/-- The path from a place that `q` describes as seen from `p`. -/
def join (p q : Path) : Path := if q.root = "" then ⟨p.root, p.names ++ q.names⟩ else q

/-- The path of something called `name` below `p`. -/
def child (p : Path) (name : String) : Path := ⟨p.root, p.names ++ [name]⟩

/-- The path without its last name. -/
def parent (p : Path) : Path := ⟨p.root, p.names.dropLast⟩

/-- The last name of a path. -/
def name (p : Path) : String := p.names.getLast?.getD ""

/-- The names of `p` after those of `base`, if `p` starts with them. -/
def relativeTo? (base p : Path) : Option Path :=
  if base.root = p.root && base.names.isPrefixOf p.names then
    some ⟨"", p.names.drop base.names.length⟩
  else none

end Path

end PropForge
