import PropForge.Route.Basic

/-!
Merging discovered routes into those of an earlier run. A route that is still there keeps its
place and its fields; a new one comes last. Routes that do not say where they stand are told.
-/

namespace PropForge.Route

open Number (Binary64)

/-- The worth of a number; truth values count as one and zero. -/
def wholeNumber? : Json → Option Int
  | .bool b => some (if b then 1 else 0)
  | .integer n => some n
  | _ => none

/-- Whether two values are the same path. Numbers are the same if they are worth the same. -/
def samePath (a b : Json) : Bool :=
  match wholeNumber? a, wholeNumber? b, a, b with
  | some m, some n, _, _ => m = n
  | some m, none, _, .real y => y.equalsInt m
  | none, some n, .real x, _ => x.equalsInt n
  | none, none, .real x, .real y => x.equals y
  | none, none, .null, .null => true
  | none, none, .string s, .string t => s = t
  | _, _, _, _ => false

/-- Refuses a path that cannot be looked up. -/
def checkPath : Json → Except RouteFault Unit
  | .array _ => .error (.unusablePath "list")
  | .object _ => .error (.unusablePath "dict")
  | _ => .ok ()

/-- Refuses a discovered route without a path that can be looked up. -/
def checkDiscovered (r : Route) : Except RouteFault Unit :=
  match r.field? "path" with
  | none => .error .noPath
  | some p => checkPath p

/-- The last of the discovered routes that has a path. -/
def discoveredAt? (discovered : List Route) (path : Json) : Option Route :=
  discovered.reverse.find? fun r => samePath r.path path

/-- An existing route with what it lacks of the discovered one. The discovered fields come first
and the existing values count. -/
def keep? (discovered : List Route) (r : Route) : Option Route :=
  (discoveredAt? discovered r.path).map fun found => Assoc.merge found r

/-- Whether a route has a path that no existing route has. -/
def isNew (existing : List Route) (r : Route) : Bool :=
  !existing.any fun old => samePath old.path r.path

/-- A route that says where it stands: at this place, unless it said so before. -/
def seedOrder (r : Route) (index : Nat) : Route :=
  if r.hasExplicitOrder then r else Assoc.put "order" (.integer (index + 1)) r

/-- Routes merged, with the numbers of those that came and went. -/
structure Merge where
  routes : List Route
  added : Nat
  removed : Nat

/-- The merge of routes whose paths can be looked up. -/
def mergeChecked (existing discovered : List Route) : Merge :=
  let kept := existing.filterMap (keep? discovered)
  let added := discovered.filter (isNew existing)
  { routes := (kept ++ added).mapIdx fun index r => seedOrder r index
    added := added.length
    removed := existing.length - kept.length }

/-- The discovered routes merged into the existing ones. -/
def merge (existing discovered : List Route) : Except RouteFault Merge := do
  discovered.forM checkDiscovered
  existing.forM fun r => checkPath r.path
  return mergeChecked existing discovered

end PropForge.Route
