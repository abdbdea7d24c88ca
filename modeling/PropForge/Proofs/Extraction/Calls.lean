import PropForge.Extraction
import PropForge.Proofs.TypeScript.Walk

/-!
# Calls

The implementation and the state of a component are read off the calls in its source, each kind of item
on its own. They agree, because what is made of the calls of one name is made of the same calls:

* `allCalls_callsOf`: which calls of a name are found, and in which order;
* `filter_hooks`: the hooks of one name;
* `hooks_agree`: state, effects and refs are those of the hooks.
-/

namespace PropForge.Extraction

open TypeScript

/-- At the end of a way stands a call of a bare name. -/
def CallsAt (source : Source) (name : String) (way : List Nat) : Prop :=
  ∃ call callee, source.tree.at? way = some call ∧ call.kind = .call ∧
    call.child? .function = some callee ∧ callee.kind = .identifier ∧ source.slice callee = name

/-- All calls of a name, each once and in the order of the source. -/
structure AllCalls (source : Source) (name : String) (sites : List Site) : Prop where
  inOrder : sites.Pairwise fun s s' => s.way < s'.way
  complete : ∀ way, (∃ s ∈ sites, s.way = way) ↔ CallsAt source name way
  placed : ∀ s ∈ sites, source.tree.at? s.way = some s.tree

/-- A call as the use of a hook. -/
def hookUse (source : Source) (name : String) (site : Site) : HookUse :=
  ⟨name, dependencies source site.tree⟩

/-- There is one item for each hook of a name and in the same order, and the two are made of one call. -/
def MatchHooks {α : Type} (source : Source) (name : String) (make : Site → α) (items : List α) :
    Prop :=
  ∃ sites, AllCalls source name sites ∧ items = sites.map make ∧
    (implementation source).hooks.filter (·.name = name) = sites.map (hookUse source name)

variable {source : Source} {name : String}

theorem calleeName?_eq_some {call : Tree} : calleeName? source call = some name ↔
    ∃ callee, call.child? .function = some callee ∧ callee.kind = .identifier ∧
      source.slice callee = name := by
  unfold calleeName?
  cases call.child? .function with
  | none => simp
  | some callee => by_cases bare : callee.kind = .identifier <;> simp [bare]

theorem callsOf_eq (source : Source) (name : String) : callsOf source name =
    source.tree.sites.filter fun s => s.tree.kind = .call ∧ calleeName? source s.tree = some name := by
  unfold callsOf namedCalls calls Tree.sitesOf
  induction source.tree.sites with
  | nil => rfl
  | cons s rest ih =>
    by_cases call : s.tree.kind = .call
    · cases callee : calleeName? source s.tree with
      | none => simpa [call, callee] using ih
      | some other => by_cases same : other = name <;> simpa [call, callee, same] using ih
    · simpa [call] using ih

/-- **Which calls are found**: all calls of the name, wherever they stand. -/
theorem allCalls_callsOf (source : Source) (name : String) :
    AllCalls source name (callsOf source name) := by
  rw [callsOf_eq]
  refine ⟨source.tree.sites_inOrder.filter _, fun way => ?_, fun s mem => ?_⟩
  · constructor
    · rintro ⟨s, mem, rfl⟩
      obtain ⟨visited, found⟩ := List.mem_filter.mp mem
      obtain ⟨call, named⟩ := of_decide_eq_true found
      obtain ⟨callee, there⟩ := calleeName?_eq_some.mp named
      exact ⟨s.tree, callee, Tree.mem_sites.mp ⟨s, visited, rfl, rfl⟩, call, there⟩
    · rintro ⟨call, callee, there, kind, named⟩
      obtain ⟨s, visited, rfl, rfl⟩ := Tree.mem_sites.mpr there
      refine ⟨s, List.mem_filter.mpr ⟨visited, decide_eq_true ⟨kind, ?_⟩⟩, rfl⟩
      exact calleeName?_eq_some.mpr ⟨callee, named⟩
  · exact Tree.mem_sites.mp ⟨s, (List.mem_filter.mp mem).1, rfl, rfl⟩

/-- **The hooks of one name** are its calls. -/
theorem filter_hooks (source : Source) (hook : "use".toList.isPrefixOf name.toList = true) :
    (hooks source).filter (·.name = name) =
      (callsOf source name).map (hookUse source name) := by
  unfold hooks callsOf
  rw [List.filter_map, List.filter_filter, List.map_map]
  have same (call : String × Site) : (decide (call.1 = name) && "use".toList.isPrefixOf call.1.toList) =
      decide (call.1 = name) := by
    by_cases h : call.1 = name
    · rw [h, hook, Bool.and_true]
    · rw [decide_eq_false h, Bool.false_and]
  refine Eq.trans (congrArg (List.map _) (List.filter_congr fun call _ => same call)) ?_
  refine List.map_congr_left fun call mem => ?_
  obtain ⟨-, named⟩ := List.mem_filter.mp mem
  rw [Function.comp_apply, hookUse, ← of_decide_eq_true named]

theorem matchHooks_callsOf {α : Type} (hook : "use".toList.isPrefixOf name.toList = true)
    (make : Site → α) : MatchHooks source name make ((callsOf source name).map make) :=
  ⟨callsOf source name, allCalls_callsOf source name, rfl, filter_hooks source hook⟩

/-- **State, effects and refs** are those of the hooks `useState`, `useEffect` and `useRef`, one for each
in the order of the source, and an effect depends on what its hook depends on. -/
theorem hooks_agree (source : Source) :
    MatchHooks source "useState" (stateVariable source) (stateUse source).localState ∧
      MatchHooks source "useEffect" (effectUse source) (stateUse source).effects ∧
      MatchHooks source "useRef" (refUse source) (implementation source).refs ∧
      (stateUse source).effects.map (·.dependencies) =
        ((implementation source).hooks.filter (·.name = "useEffect")).map (·.dependencies) := by
  refine ⟨matchHooks_callsOf rfl _, matchHooks_callsOf rfl _, matchHooks_callsOf rfl _, ?_⟩
  have effects : (implementation source).hooks.filter (·.name = "useEffect") =
      (callsOf source "useEffect").map (hookUse source "useEffect") := filter_hooks source rfl
  rw [effects, List.map_map]
  change ((callsOf source "useEffect").map (effectUse source)).map (·.dependencies) = _
  rw [List.map_map]
  rfl

end PropForge.Extraction
