import PropForge.Proofs.Component.Names
import PropForge.Proofs.Component.Body

/-!
# Names and imports of a component

A component imports the hooks that it calls. Each of them is reserved only when its call is named,
which is after props and state have their names:

* `freeName_eq_of_apart`: reserving names that are not chosen changes no choice;
* `results_apart`: no result has the name of its own hook or of one called before;
* `imports_apart_iff`: when no name of a component hides a hook that it imports.
-/

namespace PropForge.ComponentView

/-- The hooks that a component imports, in the order of their calls. -/
def importedHooks (schema : Schema) : List String :=
  ((schema.implementation.hooks.map (·.name)).filter isCustomHook).eraseDups

/-- The names that a component binds. -/
def componentNames (v : ComponentView) : List String :=
  v.props.map (fun p => Naming.localName p.name) ++ v.boundNames

/-- State and calls as they were named if all imports were reserved before. -/
def namedAfterImports (schema : Schema) : List StateVariable × List HookCall :=
  let imported := importedHooks schema
  let reserved := imported ++ reservedNames schema.contract.componentName schema.contract.props
  let (state, reserved) := nameState reserved schema.state.localState
  (state, nameHooks reserved imported)

variable {reserved more extra : List String} {withSetter : Bool} {base : String}

/-- **Reserving more** changes no choice if nothing that is chosen is reserved then. -/
theorem freeName_eq_of_apart (all : ∀ n, n ∈ more ↔ n ∈ reserved ∨ n ∈ extra)
    (apart : ∀ n ∈ taken withSetter (freeName reserved withSetter base), n ∉ extra) :
    freeName more withSetter base = freeName reserved withSetter base := by
  obtain ⟨i, -, chosen, free, least⟩ := freeName_spec reserved withSetter base
  rw [chosen] at apart ⊢
  rw [isFree_iff] at free
  refine freeName_eq_numbered_iff.mpr ⟨isFree_iff.mpr fun n hn mem => ?_, fun j hj => ?_⟩
  · exact ((all n).mp mem).elim (free n hn) (apart n hn)
  · have blocked := least j hj
    rw [← Bool.not_eq_true, isFree_iff] at blocked ⊢
    intro before
    exact blocked fun n hn mem => before n hn ((all n).mpr (.inl mem))

theorem nameState_eq_of_apart {states : List StateVariable}
    (all : ∀ n, n ∈ more ↔ n ∈ reserved ∨ n ∈ extra)
    (apart : ∀ n ∈ stateNames (nameState reserved states).1, n ∉ extra) :
    (nameState more states).1 = (nameState reserved states).1 := by
  induction states generalizing reserved more with
  | nil => rfl
  | cons s rest ih =>
    simp only [nameState, stateNames, List.flatMap_cons, List.mem_append] at apart ⊢
    have name := freeName_eq_of_apart all fun n hn => apart n (.inl hn)
    rw [name]
    congr 1
    refine ih (fun n => ?_) fun n hn => apart n (.inr hn)
    rw [List.mem_append, List.mem_append, all, or_assoc]

theorem nameHooks_eq_of_apart {hooks : List String}
    (all : ∀ n, n ∈ more ↔ n ∈ reserved ∨ n ∈ extra)
    (apart : ∀ c ∈ nameHooks reserved hooks, c.result ∉ extra) :
    nameHooks more hooks = nameHooks reserved hooks := by
  induction hooks generalizing reserved more with
  | nil => rfl
  | cons hook rest ih =>
    simp only [nameHooks, List.mem_cons, forall_eq_or_imp] at apart ⊢
    obtain ⟨first, later⟩ := apart
    have result : freeName (hook :: more) false (hookResult hook) =
        freeName (hook :: reserved) false (hookResult hook) := by
      have all (n : String) : n ∈ hook :: more ↔ n ∈ hook :: reserved ∨ n ∈ extra := by
        rw [List.mem_cons, List.mem_cons, all, or_assoc]
      refine freeName_eq_of_apart all fun n hn => ?_
      rw [taken, if_neg Bool.false_ne_true, List.mem_singleton] at hn
      exact hn ▸ first
    rw [result]
    congr 1
    refine ih (fun n => ?_) later
    simp only [List.mem_cons, all, or_assoc]

theorem map_name_nameHooks (reserved hooks : List String) :
    (nameHooks reserved hooks).map (·.name) = hooks := by
  induction hooks generalizing reserved with
  | nil => rfl
  | cons hook rest ih => rw [nameHooks, List.map_cons, ih]

/-- A result is called neither as its own hook is nor as one that is called before. -/
theorem results_apart (reserved hooks : List String) :
    (∀ c ∈ nameHooks reserved hooks, c.result ≠ c.name) ∧
      (nameHooks reserved hooks).Pairwise fun earlier c => c.result ≠ earlier.name := by
  induction hooks generalizing reserved with
  | nil => exact ⟨nofun, .nil⟩
  | cons hook rest ih =>
    rw [nameHooks]
    generalize chosen : freeName (hook :: reserved) false (hookResult hook) = result
    have first : result ≠ hook := by
      have free := (fresh_taken_freeName (hook :: reserved) false (hookResult hook)).apart
      rw [chosen] at free
      exact fun same => free result List.mem_cons_self (same ▸ List.mem_cons_self)
    have later := (nameHooks_fresh (result :: hook :: reserved) rest).apart
    obtain ⟨own, others⟩ := ih (result :: hook :: reserved)
    refine ⟨fun c mem => ?_, .cons (fun c mem same => ?_) others⟩
    · rcases List.mem_cons.mp mem with rfl | mem
      · exact first
      · exact own c mem
    · refine later c.result (List.mem_map_of_mem mem) ?_
      rw [same]
      exact List.mem_cons_of_mem _ List.mem_cons_self

variable {tables : Classification} {schema : Schema} {v : ComponentView}

/-- State and calls of a view. -/
theorem named_of_ofSchema (h : ofSchema tables schema = .ok v) :
    let reserved := reservedNames schema.contract.componentName schema.contract.props
    let named := nameState reserved schema.state.localState
    v.props = schema.contract.props ∧ v.state = named.1 ∧
      v.customHooks = nameHooks named.2 (importedHooks schema) :=
  have shows := shows_of_ofSchema h
  ⟨shows.props, shows.state, shows.customHooks⟩

theorem mem_boundNames {n : String} :
    n ∈ v.boundNames ↔ n ∈ stateNames v.state ∨ ∃ c ∈ v.customHooks, c.result = n := by
  rw [boundNames, List.mem_append, ← (stateNames_perm v.state).mem_iff, List.mem_map]

/-- Names that hide no import are those that are chosen if all imports are reserved before. -/
theorem boundNames_apart_iff (h : ofSchema tables schema = .ok v) :
    (∀ n ∈ v.boundNames, n ∉ importedHooks schema) ↔
      (v.state, v.customHooks) = namedAfterImports schema := by
  obtain ⟨-, state, calls⟩ := named_of_ofSchema h
  simp only [namedAfterImports, Prod.mk.injEq]
  generalize reservedNames schema.contract.componentName schema.contract.props = reserved at *
  generalize importedHooks schema = imported at *
  generalize schema.state.localState = states at *
  constructor
  · intro apart
    have all (n : String) : n ∈ imported ++ reserved ↔ n ∈ reserved ∨ n ∈ imported := by
      rw [List.mem_append, or_comm]
    have sameState : (nameState (imported ++ reserved) states).1 = (nameState reserved states).1 :=
      nameState_eq_of_apart all fun n hn =>
        apart n (mem_boundNames.mpr (.inl (by rw [state]; exact hn)))
    have later (n : String) : n ∈ (nameState (imported ++ reserved) states).2 ↔
        n ∈ (nameState reserved states).2 ∨ n ∈ imported := by
      rw [mem_nameState_reserved, mem_nameState_reserved, sameState, all, or_assoc]
    refine ⟨state.trans sameState.symm, calls.trans (nameHooks_eq_of_apart later ?_).symm⟩
    rw [← calls]
    exact fun c hc => apart c.result (mem_boundNames.mpr (.inr ⟨c, hc, rfl⟩))
  · rintro ⟨state, calls⟩ n hn mem
    rcases mem_boundNames.mp hn with hn | ⟨c, hc, rfl⟩
    · rw [state] at hn
      exact (nameState_fresh _ _).apart n hn (List.mem_append_left _ mem)
    · rw [calls] at hc
      refine (nameHooks_fresh _ _).apart _ (List.mem_map_of_mem hc) ?_
      exact (mem_nameState_reserved _ _ _).mpr (.inr (List.mem_append_left _ mem))

/-- **A component** consists of its imports, its props, the calls of its hooks and its state; the
calls are those of the hooks that it imports. No result of a call hides its own hook or one that is
called before. No name of the component hides any hook that it imports if and only if no prop is
called like one and the state and the calls are named as if all imports were reserved before. -/
theorem imports_apart_iff (h : ofSchema tables schema = .ok v) :
    (∃ front between wiring back,
      Generator.render ⟨.nextjs, v⟩ (Template.library none) .component =
        .ok (front ++ v.importText ++ between ++ v.patternText ++ wiring ++ v.callsText ++
          v.stateText ++ back)) ∧
    v.customHooks.map (·.name) = importedHooks schema ∧
    (∀ c ∈ v.customHooks, c.result ≠ c.name) ∧
    (v.customHooks.Pairwise fun earlier c => c.result ≠ earlier.name) ∧
    ((∀ n ∈ v.componentNames, n ∉ v.customHooks.map (·.name)) ↔
      (∀ p ∈ schema.contract.props, Naming.localName p.name ∉ importedHooks schema) ∧
        (v.state, v.customHooks) = namedAfterImports schema) := by
  obtain ⟨props, state, calls⟩ := named_of_ofSchema h
  have names : v.customHooks.map (·.name) = importedHooks schema := by
    rw [calls, map_name_nameHooks]
  have apart := results_apart
    (nameState (reservedNames schema.contract.componentName schema.contract.props)
      schema.state.localState).2 (importedHooks schema)
  rw [← calls] at apart
  refine ⟨render_nextjs v, names, apart.1, apart.2, ?_⟩
  rw [names, ← boundNames_apart_iff h, componentNames, props]
  simp only [List.mem_append, List.mem_map, or_imp, forall_and, forall_exists_index, and_imp,
    forall_apply_eq_imp_iff₂]

/-- A component with state that is called like a hook of the project. -/
def themed : Schema where
  contract := {
    componentName := "Card"
    props := [⟨"open", "boolean", false, "core", none⟩]
    events := [], variants := [], slots := [], accessibility := [], description := none }
  implementation := {
    type := "functional", forwardRef := false, refs := [], context := [], imports := []
    hooks := [⟨"useState", []⟩, ⟨"useTheme", []⟩] }
  state := {
    localState := [⟨"useTheme", "boolean", some "false"⟩]
    contextState := [], effects := [], derivedState := [] }
  provenance := ⟨"Card.tsx", ⟨2024, 1, 2, 3, 4, 5, 0, none⟩, ⟨[], []⟩, schemaVersion⟩

theorem imports_apart_iff_themed :
    ∃ v, ofSchema .standard themed = .ok v ∧ importedHooks themed = ["useTheme"] ∧
      v.componentNames = ["open", "useTheme", "setUseTheme", "theme"] ∧
      (v.state, v.customHooks) ≠ namedAfterImports themed := by
  have found : (ofSchema .standard themed).toOption.map componentNames =
      some ["open", "useTheme", "setUseTheme", "theme"] := by decide +kernel
  have imported : importedHooks themed = ["useTheme"] := by decide +kernel
  have props : ∀ p ∈ themed.contract.props, Naming.localName p.name ∉ importedHooks themed := by
    decide +kernel
  cases h : ofSchema .standard themed with
  | error e => rw [h] at found; cases found
  | ok v =>
    rw [h] at found
    have names : v.componentNames = ["open", "useTheme", "setUseTheme", "theme"] :=
      Option.some.inj found
    refine ⟨v, rfl, imported, names, fun same => ?_⟩
    obtain ⟨-, hooks, -, -, iff⟩ := imports_apart_iff h
    have apart := iff.mpr ⟨props, same⟩
    rw [names, hooks, imported] at apart
    exact apart "useTheme" (by decide) List.mem_cons_self

end PropForge.ComponentView
