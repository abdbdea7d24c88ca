import PropForge.Proofs.Component.Body
import PropForge.Proofs.Naming

/-!
# Names of props

The head of a component binds every prop: under its own name if that is an identifier, or else under
one made of its words. Names for state and hooks are chosen apart from these; these are not chosen
apart from each other.

* `sectionsOf_perm`: the sections of a view hold each prop once;
* `patternNames_nodup_iff`: two props are bound under one name only if the name of one was made;
* `patternNames_apart_iff`: what has to hold of the props so that the names in the head of their
  component differ from each other and from all that the component needs itself.
-/

namespace PropForge.ComponentView

/-- The names that the head of a component binds, in its order. -/
def patternNames (v : ComponentView) : List String :=
  v.sections.flatMap fun s => s.props.map fun p => Naming.localName p.name

/-- The names made for props whose own cannot be bound. -/
def madeNames (props : List PropSpec) : List String :=
  (props.filter fun p => !Naming.isIdentifier p.name).map fun p => Naming.localName p.name

section Sections

variable {α β : Type} [DecidableEq β] {f : α → β}

theorem nodup_eraseDups (l : List β) : l.eraseDups.Nodup := by
  match l with
  | [] => exact List.nodup_nil
  | a :: as =>
    rw [List.eraseDups_cons, List.nodup_cons]
    refine ⟨fun mem => ?_, nodup_eraseDups _⟩
    simpa using List.mem_eraseDups.mp mem
termination_by l.length
decreasing_by exact Nat.lt_succ_of_le (List.length_filter_le _ _)

/-- Items sorted by a value that is among those listed. -/
theorem perm_flatMap_filter {values : List β} (nodup : values.Nodup) {items : List α}
    (listed : ∀ a ∈ items, f a ∈ values) :
    (values.flatMap fun b => items.filter (f · = b)).Perm items := by
  induction values generalizing items with
  | nil =>
    cases items with
    | nil => exact .nil
    | cons a items => cases listed a List.mem_cons_self
  | cons b values ih =>
    obtain ⟨absent, nodup⟩ := List.nodup_cons.mp nodup
    have others : (values.flatMap fun c => items.filter (f · = c)) =
        values.flatMap fun c => (items.filter fun a => !decide (f a = b)).filter (f · = c) := by
      refine List.flatMap_congr fun c hc => ?_
      rw [List.filter_filter]
      refine List.filter_congr fun a _ => ?_
      by_cases here : f a = c
      · have : f a ≠ b := fun same => absent (same ▸ here ▸ hc)
        simp [this]
      · simp [here]
    rw [List.flatMap_cons, others]
    refine ((ih nodup fun a ha => ?_).append_left _).trans
      (List.filter_append_perm (fun a => decide (f a = b)) items)
    obtain ⟨ha, away⟩ := List.mem_filter.mp ha
    refine (List.mem_cons.mp (listed a ha)).resolve_left fun same => ?_
    simp [same] at away

theorem sectionCategories_nodup (props : List PropSpec) : (sectionCategories props).Nodup := by
  refine List.nodup_append.mpr ⟨by decide, (nodup_eraseDups _).filter _, ?_⟩
  rintro c known _ other rfl
  simpa [known] using (List.mem_filter.mp other).2

theorem sectionCategory_mem {p : PropSpec} {props : List PropSpec} (mem : p ∈ props) :
    sectionCategory p ∈ sectionCategories props := by
  rw [sectionCategories, List.mem_append]
  by_cases known : sectionCategory p ∈ Assoc.keys sectionTitles
  · exact .inl known
  · refine .inr (List.mem_filter.mpr ⟨List.mem_eraseDups.mpr (List.mem_map_of_mem mem), ?_⟩)
    simpa using known

/-- **The sections** of a view hold each prop once. -/
theorem sectionsOf_perm (props : List PropSpec) :
    ((sectionsOf props).flatMap (·.props)).Perm props := by
  have members : (sectionsOf props).flatMap (·.props) =
      (sectionCategories props).flatMap fun c => props.filter (sectionCategory · = c) := by
    rw [sectionsOf]
    induction sectionCategories props with
    | nil => rfl
    | cons c categories ih =>
      rw [List.filterMap_cons, List.flatMap_cons, ← ih]
      cases props.filter (sectionCategory · = c) <;> rfl
  rw [members]
  exact perm_flatMap_filter (sectionCategories_nodup props) fun p hp => sectionCategory_mem hp

end Sections

variable {tables : Classification} {schema : Schema} {v : ComponentView}

/-- A view has the sections of its schema's props, and its name is an identifier. -/
theorem sections_of_ofSchema (h : ofSchema tables schema = .ok v) :
    v.sections = sectionsOf schema.contract.props ∧
      Naming.isIdentifier schema.contract.componentName = true :=
  have shows := shows_of_ofSchema h
  ⟨shows.sections, shows.identifier⟩

/-- The head of a component binds the local name of each prop once. -/
theorem patternNames_perm (h : ofSchema tables schema = .ok v) :
    v.patternNames.Perm (schema.contract.props.map fun p => Naming.localName p.name) := by
  rw [patternNames, (sections_of_ofSchema h).1, ← List.map_flatMap]
  exact (sectionsOf_perm _).map _

/-- A prop is named in its line as the head binds it, behind its key if that is another. -/
theorem patternLine_key (p : PropSpec) :
    p.patternLine = "  " ++ (if Naming.isIdentifier p.name then "" else
      Naming.literal p.name ++ ": ") ++ Naming.localName p.name ++ ",\n" := by
  rw [PropSpec.patternLine, Naming.destructured]
  by_cases named : Naming.isIdentifier p.name = true
  · rw [if_pos named, if_pos named, Naming.localName_of_isIdentifier named, String.append_empty]
  · rw [if_neg named, if_neg named]
    simp only [String.append_assoc]

/-- A line of the head ends in the local name of its prop. -/
theorem patternLine_eq (p : PropSpec) :
    ∃ before, p.patternLine = before ++ Naming.localName p.name ++ ",\n" :=
  ⟨_, patternLine_key p⟩

/-- The props whose names are identifiers are bound under these, and the others under names that
are made for them. -/
theorem patternNames_perm_append (h : ofSchema tables schema = .ok v) :
    v.patternNames.Perm
      ((schema.contract.props.filter fun p => Naming.isIdentifier p.name).map (·.name) ++
        madeNames schema.contract.props) := by
  have own : (schema.contract.props.filter fun p => Naming.isIdentifier p.name).map (·.name) =
      (schema.contract.props.filter fun p => Naming.isIdentifier p.name).map
        fun p => Naming.localName p.name := by
    refine List.map_congr_left fun p hp => ?_
    exact (Naming.localName_of_isIdentifier (List.mem_filter.mp hp).2).symm
  rw [own, madeNames, ← List.map_append]
  have parts := List.filter_append_perm (fun p : PropSpec => Naming.isIdentifier p.name)
    schema.contract.props
  exact (patternNames_perm h).trans (parts.symm.map _)

/-- A made name is an identifier, which the name of the prop it is made for is not. -/
theorem ne_of_mem_madeNames {props : List PropSpec} {n s : String} (mem : n ∈ madeNames props)
    (h : Naming.isIdentifier s ≠ true) : n ≠ s := by
  rintro rfl
  obtain ⟨p, -, rfl⟩ := List.mem_map.mp mem
  exact h (Naming.isIdentifier_localName p.name)

/-- **Two props** with different names are bound under one name if and only if one name is made for
both, or the name made for one is the name of the other. -/
theorem patternNames_nodup_iff (h : ofSchema tables schema = .ok v)
    (distinct : (schema.contract.props.map (·.name)).Nodup) :
    v.patternNames.Nodup ↔
      (madeNames schema.contract.props).Nodup ∧
        ∀ n ∈ madeNames schema.contract.props, ∀ p ∈ schema.contract.props, n ≠ p.name := by
  have own := distinct.sublist
    ((List.filter_sublist (p := fun p : PropSpec => Naming.isIdentifier p.name)).map (·.name))
  rw [(patternNames_perm_append h).nodup_iff, List.nodup_append]
  constructor
  · rintro ⟨-, made, apart⟩
    refine ⟨made, fun n hn p hp => ?_⟩
    by_cases named : Naming.isIdentifier p.name = true
    · exact (apart p.name (List.mem_map_of_mem (List.mem_filter.mpr ⟨hp, named⟩)) n hn).symm
    · exact ne_of_mem_madeNames hn named
  · rintro ⟨made, apart⟩
    refine ⟨own, made, fun s hs n hn => ?_⟩
    obtain ⟨p, hp, rfl⟩ := List.mem_map.mp hs
    exact (apart n hn p (List.mem_filter.mp hp).1).symm

theorem isIdentifier_of_mem_templateLocals {n : String} (mem : n ∈ templateLocals) :
    Naming.isIdentifier n = true := by
  have all : ∀ n ∈ templateLocals, Naming.isIdentifier n = true := by decide
  exact all n mem

/-- **The head of a component** is part of its text, with a line for each prop. The names that it
binds differ from each other and from those that the component declares or takes from its imports if
and only if no prop has such a name, no name that is made is such a name or that of a prop, and no
name is made for two props. -/
theorem patternNames_apart_iff (h : ofSchema tables schema = .ok v)
    (distinct : (schema.contract.props.map (·.name)).Nodup) :
    (∃ before after, Generator.render ⟨.nextjs, v⟩ (Template.library none) .component =
      .ok (before ++ v.patternText ++ after)) ∧
    (∀ p : PropSpec, ∃ before,
      p.patternLine = before ++ Naming.localName p.name ++ ",\n") ∧
    (v.patternNames.Nodup ∧
        (∀ n ∈ v.patternNames, n ∉ templateLocals ∧ n ≠ schema.contract.componentName) ↔
      (∀ p ∈ schema.contract.props,
        p.name ∉ templateLocals ∧ p.name ≠ schema.contract.componentName) ∧
      (∀ n ∈ madeNames schema.contract.props,
        n ∉ templateLocals ∧ n ≠ schema.contract.componentName ∧
          ∀ p ∈ schema.contract.props, n ≠ p.name) ∧
      (madeNames schema.contract.props).Nodup) := by
  obtain ⟨-, identifier⟩ := sections_of_ofSchema h
  refine ⟨?_, patternLine_eq, ?_⟩
  · obtain ⟨front, between, wiring, back, text⟩ := render_nextjs v
    refine ⟨front ++ v.importText ++ between, wiring ++ v.callsText ++ v.stateText ++ back, ?_⟩
    rw [text]
    simp only [String.append_assoc]
  have mem {n : String} : n ∈ v.patternNames ↔
      (∃ p ∈ schema.contract.props, Naming.isIdentifier p.name = true ∧ p.name = n) ∨
        n ∈ madeNames schema.contract.props := by
    rw [(patternNames_perm_append h).mem_iff, List.mem_append, List.mem_map]
    simp only [List.mem_filter, and_assoc]
  rw [patternNames_nodup_iff h distinct]
  constructor
  · rintro ⟨⟨made, apart⟩, free⟩
    refine ⟨fun p hp => ?_, fun n hn => ?_, made⟩
    · by_cases named : Naming.isIdentifier p.name = true
      · exact free _ (mem.mpr (.inl ⟨p, hp, named, rfl⟩))
      · exact ⟨fun is => named (isIdentifier_of_mem_templateLocals is),
          fun is => named (is ▸ identifier)⟩
    · obtain ⟨noLocal, noComponent⟩ := free n (mem.mpr (.inr hn))
      exact ⟨noLocal, noComponent, apart n hn⟩
  · rintro ⟨props, made, nodup⟩
    refine ⟨⟨nodup, fun n hn => (made n hn).2.2⟩, fun n hn => ?_⟩
    rcases mem.mp hn with ⟨p, hp, -, rfl⟩ | hn
    · exact props p hp
    · exact ⟨(made n hn).1, (made n hn).2.1⟩

/-- A component with a prop for which the name of another is made. -/
def labelled : Schema where
  contract := {
    componentName := "Tag"
    props := [⟨"aria-label", "string", false, "core", none⟩,
      ⟨"ariaLabel", "string", false, "core", none⟩]
    events := [], variants := [], slots := [], accessibility := [], description := none }
  implementation := {
    type := "functional", forwardRef := false, refs := [], context := [], imports := []
    hooks := [] }
  state := { localState := [], contextState := [], effects := [], derivedState := [] }
  provenance := ⟨"Tag.tsx", ⟨2024, 1, 2, 3, 4, 5, 0, none⟩, ⟨[], []⟩, schemaVersion⟩

theorem patternNames_apart_iff_labelled :
    ∃ v, ofSchema .standard labelled = .ok v ∧ (labelled.contract.props.map (·.name)).Nodup ∧
      v.patternNames = ["ariaLabel", "ariaLabel"] ∧
      ¬(v.patternNames.Nodup ∧
        ∀ n ∈ v.patternNames, n ∉ templateLocals ∧ n ≠ labelled.contract.componentName) := by
  have found : (ofSchema .standard labelled).toOption.map patternNames =
      some ["ariaLabel", "ariaLabel"] := by decide +kernel
  cases h : ofSchema .standard labelled with
  | error e => rw [h] at found; cases found
  | ok v =>
    rw [h] at found
    refine ⟨v, rfl, by decide, Option.some.inj found, fun apart => ?_⟩
    obtain ⟨-, made, -⟩ := (patternNames_apart_iff h (by decide)).2.2.mp apart
    have mem : "ariaLabel" ∈ madeNames labelled.contract.props := by decide +kernel
    exact (made _ mem).2.2 _ (List.mem_cons_of_mem _ List.mem_cons_self) rfl

end PropForge.ComponentView
