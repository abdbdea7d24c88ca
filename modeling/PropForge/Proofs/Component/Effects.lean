import PropForge.Proofs.Component.Imports

/-!
# State that effects depend on

A state variable is declared under its own name if that is free, or else under a numbered one. What an
effect depends on is written as it was found, so that a dependency on a variable that is renamed is
one on something else, or on nothing:

* `getElem?_nameState`: under which name each variable is declared;
* `effects_follow_iff`: when every dependency on a state variable is on the name it is declared under.
-/

namespace PropForge.ComponentView

/-- Every dependency on a state variable is on the name under which the variable is declared. -/
def EffectsFollow (schema : Schema) (v : ComponentView) : Prop :=
  ∀ e ∈ v.effects, ∀ d ∈ e.dependencies, ∀ (i : Nat) (s t : StateVariable),
    schema.state.localState[i]? = some s → v.state[i]? = some t → s.name = d → t.name = d

/-- An effect of a schema depends on a name. -/
def IsDependency (schema : Schema) (name : String) : Prop :=
  ∃ e ∈ schema.state.effects, name ∈ e.dependencies

/-- Variables in front are named as if none came after them. -/
theorem nameState_take (reserved : List String) (states : List StateVariable) (i : Nat) :
    (nameState reserved (states.take i)).1 = (nameState reserved states).1.take i := by
  induction states generalizing reserved i with
  | nil => cases i <;> rfl
  | cons s rest ih =>
    cases i with
    | zero => rfl
    | succ i =>
      simp only [List.take_succ_cons, nameState, ih]

/-- **Each variable** is named when those in front of it have their names. -/
theorem getElem?_nameState (reserved : List String) (states : List StateVariable) (i : Nat) :
    (nameState reserved states).1[i]? = states[i]?.map fun s =>
      { s with name := freeName (nameState reserved (states.take i)).2 true s.name } := by
  induction states generalizing reserved i with
  | nil => rfl
  | cons s rest ih =>
    cases i with
    | zero => rfl
    | succ i =>
      simp only [nameState, List.getElem?_cons_succ, List.take_succ_cons]
      exact ih _ _

variable {tables : Classification} {schema : Schema} {v : ComponentView}

/-- A variable is declared under its own name if and only if neither this nor its setter's is that of
a prop, of the template, of the component or of a variable in front of it. -/
theorem state_kept_iff (h : ofSchema tables schema = .ok v) {i : Nat} {s t : StateVariable}
    (found : schema.state.localState[i]? = some s) (declared : v.state[i]? = some t) :
    t.name = s.name ↔ ∀ n ∈ taken true s.name,
      n ∉ reservedNames schema.contract.componentName schema.contract.props ∧
        n ∉ stateNames (v.state.take i) := by
  have state := (shows_of_ofSchema h).state
  rw [state, getElem?_nameState, found, Option.map_some, Option.some.injEq] at declared
  rw [← declared, freeName_eq_self_iff, state, ← nameState_take]
  simp only [mem_nameState_reserved, not_or, and_comm]

/-- **Effects** are written with the dependencies that they have in the source, whatever state is
called. So each dependency on a state variable is on the name under which it is declared if and only
if no variable that an effect depends on asks for a name, or for a setter's, that a prop, the
template, the component or a variable in front of it has. -/
theorem effects_follow_iff (h : ofSchema tables schema = .ok v) :
    (∃ front between, Generator.render ⟨.nextjs, v⟩ (Template.library none) .component =
      .ok (front ++ v.importText ++ between ++ v.patternText ++ v.ouiaText ++ v.callsText ++
        v.stateText ++ v.effectsText ++ v.classesText ++ v.markupText)) ∧
    v.effects = schema.state.effects ∧ v.state.length = schema.state.localState.length ∧
    (EffectsFollow schema v ↔
      ∀ (i : Nat) (s : StateVariable), schema.state.localState[i]? = some s →
        IsDependency schema s.name → ∀ n ∈ [s.name, setterName s.name],
          n ∉ reservedNames schema.contract.componentName schema.contract.props ∧
            n ∉ stateNames (v.state.take i)) := by
  have effects := (shows_of_ofSchema h).effects
  have length : v.state.length = schema.state.localState.length := by
    rw [(shows_of_ofSchema h).state]
    exact (nameState_forall₂ _ _).length_eq.symm
  refine ⟨v.render_parts, effects, length, ?_⟩
  constructor
  · rintro follow i s found ⟨e, he, hd⟩
    have bound : i < v.state.length := by
      rw [length]
      exact (List.getElem?_eq_some_iff.mp found).1
    have declared : v.state[i]? = some v.state[i] := List.getElem?_eq_getElem bound
    apply (state_kept_iff h found declared).mp
    rw [← effects] at he
    exact follow e he s.name hd i s v.state[i] found declared rfl
  · intro free e he d hd i s t found declared name
    rw [effects] at he
    subst name
    exact (state_kept_iff h found declared).mpr (free i s found ⟨e, he, hd⟩)

/-- A component with state that is called like a prop, and with an effect that depends on it. -/
def controlled : Schema where
  contract := {
    componentName := "Card"
    props := [⟨"open", "boolean", false, "core", none⟩]
    events := [], variants := [], slots := [], accessibility := [], description := none }
  implementation := {
    type := "functional", forwardRef := false, refs := [], context := [], imports := []
    hooks := [⟨"useState", []⟩, ⟨"useEffect", ["open"]⟩] }
  state := {
    localState := [⟨"open", "boolean", some "false"⟩]
    contextState := [], effects := [⟨"useEffect", ["open"]⟩], derivedState := [] }
  provenance := ⟨"Card.tsx", ⟨2024, 1, 2, 3, 4, 5, 0, none⟩, ⟨[], []⟩, schemaVersion⟩

theorem effects_follow_iff_controlled :
    ∃ v, ofSchema .standard controlled = .ok v ∧
      (controlled.state.localState.map (·.name)).Nodup ∧
      v.stateText = "\n  // State management\n  const [open2, setOpen2] = useState<boolean>(false);\n" ∧
      v.effectsText = "\n  // Effects\n  useEffect(() => \x7b\n    // useEffect logic\n  \x7d, [open]);\n" ∧
      ¬EffectsFollow controlled v := by
  have found : (ofSchema .standard controlled).toOption.map (fun v =>
      (v.stateText, v.effectsText)) =
        some ("\n  // State management\n  const [open2, setOpen2] = useState<boolean>(false);\n",
          "\n  // Effects\n  useEffect(() => \x7b\n    // useEffect logic\n  \x7d, [open]);\n") := by
    decide +kernel
  have reserved : "open" ∈ reservedNames controlled.contract.componentName
      controlled.contract.props := by decide +kernel
  cases h : ofSchema .standard controlled with
  | error e => rw [h] at found; cases found
  | ok v =>
    rw [h] at found
    obtain ⟨state, effects⟩ := Prod.mk.inj (Option.some.inj found)
    refine ⟨v, rfl, by decide, state, effects, ?_⟩
    intro follow
    obtain ⟨-, -, -, iff⟩ := effects_follow_iff h
    have dependency : IsDependency controlled "open" :=
      ⟨⟨"useEffect", ["open"]⟩, List.mem_cons_self, List.mem_cons_self⟩
    have free := iff.mp follow 0 _ rfl dependency "open" List.mem_cons_self
    exact free.1 reserved

end PropForge.ComponentView
