import PropForge.Route.Basic

/-!
The order of routes in a navigation: by the position they state, those without one last, and
otherwise as they come.
-/

namespace PropForge.Route

open Number (Binary64)

/-- A number to compare positions by. -/
def position : Json → Except RouteFault Binary64
  | .integer n => (Binary64.ofInt? n).elim (.error .tooLarge) .ok
  | .real x => .ok x
  | _ => .ok (.infinite false)

/-- The position that counts: the order, or else the priority, or else the last. -/
def effectivePosition (r : Route) : Except RouteFault Binary64 :=
  if isNumber (r.field? "order") then position ((r.field? "order").getD .null)
  else if isNumber (r.field? "priority") then position ((r.field? "priority").getD .null)
  else .ok (.infinite false)

/-- A route with the position by which it is sorted. -/
def placed (r : Route) : Except RouteFault (Binary64 × Route) := do
  return (← r.effectivePosition, r)

/-- The routes by position, routes of one position as they come. If none states a position, all
stay where they are. -/
def order (routes : List Route) : Except RouteFault (List Route) := do
  if !routes.any hasExplicitOrder then return routes
  let placed ← routes.mapM placed
  return (placed.mergeSort fun (x, _) (y, _) => !y.less x).map (·.2)

/-- The routes to show: those that are not hidden, in order. -/
def visible (routes : List Route) : Except RouteFault (List Route) :=
  order (routes.filter (!·.isHidden))

end PropForge.Route
