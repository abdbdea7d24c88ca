import PropForge.Proofs.Component.Pattern
import PropForge.Proofs.Component.Stories
import PropForge.Proofs.Text.WholeWord

/-!
# Props that a component uses

Behind its head a component names props in five places: in the call of the hook that the template
brings along, in the style classes of variants and of boolean props, in the class that is passed in,
and in its markup. What it names there is found in five different ways, and bound in one:

* `mem_patternNames_iff`: the head binds the local names of props and nothing else;
* `bindVariant_spec`: which prop selects a variant, and when there is none;
* `usedNames_bound`: all that a component uses is bound in its head.
-/

namespace PropForge.ComponentView

/-- The arguments of the hook that the template brings along, but for the word for none. -/
def passedArguments (v : ComponentView) : List String :=
  [v.ouiaArguments.1, v.ouiaArguments.2].filter (· ≠ "undefined")

/-- The names of props in the text of a component behind its head. -/
def usedNames (v : ComponentView) : List String :=
  v.passedArguments ++ (v.bindings.filter (·.matched)).map VariantBinding.local ++
    v.modifiers.map (·.localName) ++ (if v.hasClassName then ["className"] else []) ++
    (if v.hasChildren then ["children"] else [])

/-- What is left of a variant's name without that of its component in front, or all of it if nothing
is left or it does not begin so. -/
def IsStem (component variant stem : String) : Prop :=
  (stem ≠ "" ∧ variant = component ++ stem) ∨
    (stem = variant ∧ ∀ rest, rest ≠ "" → variant ≠ component ++ rest)

section Bindings

variable {component : String} {props : List PropSpec} {w : VariantSpec}

/-- The name that a variant asks for is made of its stem. -/
theorem exists_stem (component variant : String) : ∃ stem, IsStem component variant stem ∧
    bindingCandidate component variant = Text.lowerFirst stem := by
  by_cases begins : ∃ rest, rest ≠ "" ∧ variant = component ++ rest
  · obtain ⟨rest, full, rfl⟩ := begins
    refine ⟨rest, .inl ⟨full, rfl⟩, ?_⟩
    have longer : component.length < (component ++ rest).length := by
      rw [String.length_append]
      have : rest.length ≠ 0 := mt String.length_eq_zero_iff.mp full
      omega
    have tail : (component ++ rest).toList.drop component.length = rest.toList := by
      rw [String.toList_append, ← String.length_toList, List.drop_left]
    have begins : component.toList.isPrefixOf (component ++ rest).toList = true := by
      rw [String.toList_append, List.isPrefixOf_iff_prefix]
      exact List.prefix_append _ _
    rw [bindingCandidate, begins, tail, String.ofList_toList, Bool.true_and,
      if_pos (decide_eq_true longer)]
  · push Not at begins
    refine ⟨variant, .inr ⟨rfl, begins⟩, ?_⟩
    rw [bindingCandidate, if_neg]
    intro shorter
    rw [Bool.and_eq_true, List.isPrefixOf_iff_prefix, decide_eq_true_iff] at shorter
    obtain ⟨⟨rest, split⟩, longer⟩ := shorter
    apply begins (String.ofList rest)
    · rintro empty
      have none : rest = [] := by simpa using empty
      rw [none, List.append_nil, String.toList_inj] at split
      rw [split] at longer
      exact lt_irrefl _ longer
    · rw [← String.toList_inj, String.toList_append, String.toList_ofList, split]

/-- **The prop that selects a variant** has the name that the variant asks for, or a type in which the
variant's name is a whole word. There is none only if no prop is such. -/
theorem bindVariant_spec :
    ((bindVariant component props w).matched = true →
      ∃ p ∈ props, p.name = (bindVariant component props w).propName) ∧
    ((bindVariant component props w).matched = false ↔
      ∀ p ∈ props, p.name ≠ bindingCandidate component w.name ∧ ¬Text.StandsIn w.name p.type) := by
  by_cases named : ∃ p ∈ props, p.name = bindingCandidate component w.name
  · obtain ⟨p, hp, name⟩ := named
    have any : props.any (fun p => p.name = bindingCandidate component w.name) = true :=
      List.any_eq_true.mpr ⟨p, hp, decide_eq_true name⟩
    have bound : bindVariant component props w = ⟨w, bindingCandidate component w.name, true⟩ := by
      rw [bindVariant, if_pos any]
    rw [bound]
    refine ⟨fun _ => ⟨p, hp, name⟩, ⟨nofun, fun none => ?_⟩⟩
    exact absurd name (none p hp).1
  push Not at named
  have none : ¬props.any (fun p => p.name = bindingCandidate component w.name) = true := by
    intro any
    obtain ⟨p, hp, name⟩ := List.any_eq_true.mp any
    exact named p hp (of_decide_eq_true name)
  cases found : props.find? fun p => Text.hasWord w.name p.type with
  | some p =>
    have bound : bindVariant component props w = ⟨w, p.name, true⟩ := by
      rw [bindVariant, if_neg none, found]
    have stands : Text.StandsIn w.name p.type := by
      rw [← Text.hasWord_iff]
      simpa using List.find?_some found
    rw [bound]
    refine ⟨fun _ => ⟨p, List.mem_of_find?_eq_some found, rfl⟩, ⟨nofun, fun none => ?_⟩⟩
    exact absurd stands (none p (List.mem_of_find?_eq_some found)).2
  | none =>
    have bound : bindVariant component props w =
        ⟨w, bindingCandidate component w.name, false⟩ := by
      rw [bindVariant, if_neg none, found]
    rw [bound]
    refine ⟨nofun, ⟨fun _ p hp => ⟨named p hp, ?_⟩, fun _ => rfl⟩⟩
    intro stands
    exact List.find?_eq_none.mp found p hp ((Text.hasWord_iff _ _).mpr stands)

end Bindings

/-- A text that is joined with others is a part of what they make. -/
theorem infix_join_map {α : Type} {line : α → String} {a : α} {as : List α} (mem : a ∈ as) :
    (line a).toList <:+: (String.join (as.map line)).toList := by
  rw [String.toList_join, List.flatMap_def, List.map_map]
  exact List.infix_of_mem_flatten (List.mem_map_of_mem mem)

variable {tables : Classification} {schema : Schema} {v : ComponentView}

theorem mem_patternNames_iff (h : ofSchema tables schema = .ok v) {n : String} :
    n ∈ v.patternNames ↔ ∃ p ∈ schema.contract.props, Naming.localName p.name = n := by
  rw [(patternNames_perm h).mem_iff, List.mem_map]

/-- The head has a line for each prop. -/
theorem patternLine_within (h : ofSchema tables schema = .ok v) {p : PropSpec}
    (hp : p ∈ schema.contract.props) : p.patternLine.toList <:+: v.patternText.toList := by
  have mem : p ∈ v.sections.flatMap (·.props) := by
    rw [(shows_of_ofSchema h).sections]
    exact (sectionsOf_perm _).mem_iff.mpr hp
  obtain ⟨s, hs, inSection⟩ := List.mem_flatMap.mp mem
  have line : p.patternLine.toList <:+: s.patternText.toList := by
    apply (infix_join_map inSection).trans
    rw [PropSection.patternText, String.toList_append]
    exact (List.suffix_append _ _).isInfix
  have lines (front lines rest brace : String) :
      lines.toList <:+: (front ++ lines ++ rest ++ brace).toList := by
    rw [String.append_assoc, String.toList_append, String.toList_append]
    exact List.infix_append _ _ _
  exact (line.trans (infix_join_map hs)).trans (lines _ _ _ _)

/-- A name that generated code spells out is bound as it is. -/
theorem localName_of_any {props : List PropSpec} {name : String}
    (identifier : Naming.isIdentifier name = true)
    (any : props.any (fun p => p.name = name) = true) :
    ∃ p ∈ props, Naming.localName p.name = name := by
  obtain ⟨p, hp, same⟩ := List.any_eq_true.mp any
  refine ⟨p, hp, ?_⟩
  rw [of_decide_eq_true same, Naming.localName_of_isIdentifier identifier]

theorem localName_of_mem_flag {props : List PropSpec} {name n : String}
    (identifier : Naming.isIdentifier name = true)
    (mem : n ∈ if props.any (fun p => p.name = name) then [name] else []) :
    ∃ p ∈ props, Naming.localName p.name = n := by
  by_cases any : props.any (fun p => p.name = name) = true
  · rw [if_pos any, List.mem_singleton] at mem
    subst mem
    exact localName_of_any identifier any
  · rw [if_neg any] at mem
    cases mem

/-- An argument that is passed is bound as it is too. -/
theorem localName_of_argumentFor {props : List PropSpec} {name : String}
    (identifier : Naming.isIdentifier name = true)
    (passed : argumentFor props name ≠ "undefined") :
    ∃ p ∈ props, Naming.localName p.name = argumentFor props name := by
  by_cases any : props.any (fun p => p.name = name) = true
  · rw [argumentFor, if_pos any]
    exact localName_of_any identifier any
  · rw [argumentFor, if_neg any] at passed
    exact absurd rfl passed

/-- **All that a component uses** of its props is the local name of one. -/
theorem mem_usedNames (h : ofSchema tables schema = .ok v) {n : String} (mem : n ∈ v.usedNames) :
    ∃ p ∈ schema.contract.props, Naming.localName p.name = n := by
  have shows := shows_of_ofSchema h
  rw [usedNames, shows.hasClassName, shows.hasChildren] at mem
  simp only [List.mem_append] at mem
  rcases mem with (((argument | selected) | modifier) | passed) | inside
  · rw [passedArguments, shows.ouiaArguments] at argument
    obtain ⟨mem, passed⟩ := List.mem_filter.mp argument
    rw [decide_eq_true_iff] at passed
    rcases List.mem_pair.mp mem with rfl | rfl
    · exact localName_of_argumentFor (by decide) passed
    · exact localName_of_argumentFor (by decide) passed
  · obtain ⟨b, hb, rfl⟩ := List.mem_map.mp selected
    obtain ⟨mem, matched⟩ := List.mem_filter.mp hb
    rw [shows.bindings] at mem
    obtain ⟨w, -, rfl⟩ := List.mem_map.mp mem
    obtain ⟨p, hp, name⟩ := bindVariant_spec.1 matched
    exact ⟨p, hp, by rw [VariantBinding.local, name]⟩
  · obtain ⟨m, hm, rfl⟩ := List.mem_map.mp modifier
    rw [shows.modifiers, shows.patterns] at hm
    obtain ⟨name, boolean, rfl⟩ := List.mem_map.mp hm
    obtain ⟨p, hp, rfl⟩ := List.mem_map.mp (List.mem_filter.mp boolean).1
    exact ⟨p, hp, rfl⟩
  · exact localName_of_mem_flag (by decide) passed
  · exact localName_of_mem_flag (by decide) inside

/-- **A component** consists of its head, which binds the props, and of what uses them. The head has a
line for each prop, in which the prop is named as the head binds it, and binds nothing else. All that
is used behind it is bound there: the props that select variants, those that switch a modifier, the
class that is passed in, what is inside and the arguments of a hook. A variant is selected by no prop
only if none has the name that is made of its stem and none has a type in which the variant's own name
is a whole word. -/
theorem usedNames_bound (h : ofSchema tables schema = .ok v) :
    (∃ front between, Generator.render ⟨.nextjs, v⟩ (Template.library none) .component =
      .ok (front ++ v.importText ++ between ++ v.patternText ++ v.ouiaText ++ v.callsText ++
        v.stateText ++ v.effectsText ++ v.classesText ++ v.markupText)) ∧
    (∀ p ∈ schema.contract.props, p.patternLine.toList <:+: v.patternText.toList ∧
      p.patternLine = "  " ++ (if Naming.isIdentifier p.name then "" else
        Naming.literal p.name ++ ": ") ++ Naming.localName p.name ++ ",\n") ∧
    v.patternNames.Perm (schema.contract.props.map fun p => Naming.localName p.name) ∧
    (∀ n ∈ v.usedNames, n ∈ v.patternNames ∧
      ∃ p ∈ schema.contract.props, Naming.localName p.name = n) ∧
    v.bindings.map (·.variant) = schema.contract.variants ∧
    ∀ b ∈ v.bindings, ∃ stem, IsStem schema.contract.componentName b.variant.name stem ∧
      (b.matched = false ↔ ∀ p ∈ schema.contract.props,
        p.name ≠ Text.lowerFirst stem ∧ ¬Text.StandsIn b.variant.name p.type) := by
  refine ⟨v.render_parts, ?lines, patternNames_perm h, ?uses, variants_of_ofSchema h, ?unmatched⟩
  case lines =>
    intro p hp
    exact ⟨patternLine_within h hp, patternLine_key p⟩
  case uses =>
    intro n hn
    have isLocal := mem_usedNames h hn
    exact ⟨(mem_patternNames_iff h).mpr isLocal, isLocal⟩
  case unmatched =>
    intro b hb
    rw [(shows_of_ofSchema h).bindings] at hb
    obtain ⟨w, -, rfl⟩ := List.mem_map.mp hb
    obtain ⟨stem, isStem, candidate⟩ := exists_stem schema.contract.componentName w.name
    refine ⟨stem, ?_, ?_⟩
    · rwa [bindVariant_variant]
    · rw [bindVariant_variant, ← candidate]
      exact bindVariant_spec.2

/-- A component with a variant that is selected by the type of a prop, with one that is selected by
none, and with all else that props are used for. -/
def decorated : Schema where
  contract := {
    componentName := "Chip"
    props := [⟨"tone", "ChipColor | \"auto\"", false, "styling", none⟩,
      ⟨"isOn-top", "boolean", false, "", none⟩,
      ⟨"aria-label", "string", false, "accessibility", none⟩,
      ⟨"ouiaId", "string", false, "accessibility", none⟩,
      ⟨"className", "string", false, "styling", none⟩,
      ⟨"children", "React.ReactNode", false, "core", none⟩]
    events := [], slots := [], accessibility := [], description := none
    variants := [⟨"ChipColor", ["red"], "enum"⟩, ⟨"ChipSize", ["small"], "enum"⟩] }
  implementation := {
    type := "functional", forwardRef := false, refs := [], context := [], imports := []
    hooks := [] }
  state := { localState := [], contextState := [], effects := [], derivedState := [] }
  provenance := ⟨"Chip.tsx", ⟨2024, 1, 2, 3, 4, 5, 0, none⟩, ⟨[], []⟩, schemaVersion⟩

theorem usedNames_bound_decorated :
    ∃ v, ofSchema .standard decorated = .ok v ∧
      v.usedNames = ["ouiaId", "tone", "isOnTop", "className", "children"] ∧
      v.bindings.map (·.matched) = [true, false] ∧ ∀ n ∈ v.usedNames, n ∈ v.patternNames := by
  have found : (ofSchema .standard decorated).toOption.map (fun v =>
      (v.usedNames, v.bindings.map (·.matched))) =
        some (["ouiaId", "tone", "isOnTop", "className", "children"], [true, false]) := by
    decide +kernel
  cases h : ofSchema .standard decorated with
  | error e => rw [h] at found; cases found
  | ok v =>
    rw [h] at found
    obtain ⟨names, matched⟩ := Prod.mk.inj (Option.some.inj found)
    obtain ⟨-, -, -, uses, -⟩ := usedNames_bound h
    exact ⟨v, rfl, names, matched, fun n hn => (uses n hn).1⟩

end PropForge.ComponentView
