import PropForge.Json.Reader
import PropForge.Project.Basic
import PropForge.Route.Merge
import PropForge.Route.Scan

/-!
Keeping a site's navigation: the routes found among an app's pages are merged into the stored ones.
-/

namespace PropForge

/-- The result of a run: where the routes are stored, the routes, and how many came and went. -/
structure Synced where
  path : Path
  routes : List Route
  added : Nat
  removed : Nat

namespace Project

/-- The routes of an app's directory, none if it is no directory. -/
def scanRoutes (appDir : Path) : Action (List Route) := do
  match (← Action.disk).at? appDir with
  | some (.directory entries) => return Route.scan (.directory entries)
  | _ =>
    Action.debug "routes" s!"App directory {appDir.text} does not exist"
    return []

/-- The routes in a document: the objects in its list of routes. -/
def routesIn (document : Json) : List Route :=
  match document.field? "routes" with
  | some (.array items) => items.filterMap fun
    | .object fields => some fields
    | _ => none
  | _ => []

/-- The stored routes. A file that is not there, or is no document, holds none; one that holds no
text is refused. -/
def readRoutes (p : Path) : Action (List Route) := do
  let ignore (reason : String) : Action (List Route) := do
    Action.log .warning "routes" s!"Ignoring unreadable routes file {p.text}: {reason}"
    return []
  match ← Action.tryRead p with
  | .error (.bytes f) => throw (.undecodable f)
  | .error (.disk f) => if f.cause = .missing then return [] else ignore f.message
  | .ok text => match Json.parse text.toList with
    | .ok document => return routesIn document
    | .error f => ignore (f.message text.toList)

/-- The document that routes are stored in. -/
def routesDocument (now : Timestamp) (routes : List Route) : Json :=
  .object [("routes", .array (routes.map Route.toJson)), ("lastSynced", .string now.text)]

/-- Brings the stored routes up to date with those that were found. -/
def storeRoutes (target : Path) (discovered : List Route) : Action Synced := do
  let existing ← readRoutes target
  let merged ← match Route.merge existing discovered with
    | .ok m => pure m
    | .error f => throw (.route f)
  Action.makeDirectories target.parent
  Action.write target (Json.document (routesDocument (← get).now merged.routes))
  let added := String.ofList (Number.digits merged.added)
  let removed := String.ofList (Number.digits merged.removed)
  Action.info "routes" (s!"Synced {count merged.routes} routes -> {target.text} " ++
    s!"(+{added} added, -{removed} removed)")
  return ⟨target, merged.routes, merged.added, merged.removed⟩

/-- Brings the stored routes up to date with the pages. -/
def syncRoutes (root appDir routesPath : Path) : Action Synced := do
  let scanned := root.join appDir
  let discovered ← scanRoutes scanned
  Action.debug "routes" s!"Discovered {count discovered} routes under {scanned.text}"
  storeRoutes (root.join routesPath) discovered

/-- Brings the routes of a project up to date. -/
def sync (p : Project) : Action Synced := do
  let s ← p.settings
  syncRoutes p.root (.ofText s.routes.appDir) (.ofText s.routes.manifestPath)

end Project

end PropForge
