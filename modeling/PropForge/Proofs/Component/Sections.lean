import PropForge.Proofs.Component.Descriptions
import PropForge.Proofs.Component.Pattern

/-!
# Sections of props

The props of a component are grouped by category. Known categories come first, in a fixed order, and
then the others, in the order of their first use:

* `pairwise_eraseDups`: a list without its repetitions is in the order of first use;
* `of_mem_sectionsOf`, `categories_sublist`: what a section has, and which sections there are;
* `Lists`: a text that has a line for each of some props;
* `render_listings`, `render_typesListing`: the texts by section in a component for Next.js and in the
  types of every component;
* `sections_partition`: the sections partition the props, and both texts list these in one order.
-/

namespace PropForge

open Template

/-- A text that has a line for each of some props, in their order, and besides these lines only titles
and empty lines. -/
inductive Lists (line : PropSpec → String) : List PropSpec → String → Prop
  | nil : Lists line [] ""
  | blank {props : List PropSpec} {text : String} (rest : Lists line props text) :
      Lists line props ("\n" ++ text)
  | title {title : String} (whole : '\n' ∉ title.toList) {props : List PropSpec} {text : String}
      (rest : Lists line props text) : Lists line props ("  // " ++ title ++ "\n" ++ text)
  | prop (p : PropSpec) {props : List PropSpec} {text : String} (rest : Lists line props text) :
      Lists line (p :: props) (line p ++ text)

namespace Lists

variable {line : PropSpec → String} {props more : List PropSpec} {text rest : String}

theorem append (h : Lists line props text) (next : Lists line more rest) :
    Lists line (props ++ more) (text ++ rest) := by
  induction h with
  | nil =>
    rw [String.empty_append]
    exact next
  | blank _ ih =>
    rw [String.append_assoc]
    exact ih.blank
  | title whole _ ih =>
    rw [String.append_assoc]
    exact ih.title whole
  | prop p _ ih =>
    rw [String.append_assoc]
    exact ih.prop p

theorem join (props : List PropSpec) : Lists line props (String.join (props.map line)) := by
  induction props with
  | nil => exact .nil
  | cons p props ih =>
    rw [List.map_cons, String.join_cons]
    exact ih.prop p

/-- The lines of some props below a title. -/
theorem titled {title : String} (whole : '\n' ∉ title.toList) (props : List PropSpec) :
    Lists line props ("  // " ++ title ++ "\n" ++ String.join (props.map line)) :=
  (join props).title whole

section Sections

variable {sections : List PropSection} {part : PropSection → String}

/-- The texts of sections, one after the other. -/
theorem joined (h : ∀ s ∈ sections, Lists line s.props (part s)) :
    Lists line (sections.flatMap (·.props)) (String.join (sections.map part)) := by
  induction sections with
  | nil => exact .nil
  | cons s others ih =>
    obtain ⟨here, there⟩ := List.forall_mem_cons.mp h
    rw [List.map_cons, String.join_cons, List.flatMap_cons]
    exact here.append (ih there)

/-- The texts of sections with an empty line between each two. -/
theorem separated (h : ∀ s ∈ sections, Lists line s.props (part s)) :
    Lists line (sections.flatMap (·.props)) ("\n".intercalate (sections.map part)) := by
  induction sections with
  | nil => exact .nil
  | cons s others ih =>
    obtain ⟨here, there⟩ := List.forall_mem_cons.mp h
    cases others with
    | nil => simpa using here
    | cons t others =>
      rw [List.map_cons, List.map_cons, String.intercalate_cons_cons, String.append_assoc,
        List.flatMap_cons]
      exact here.append (ih there).blank

end Sections

end Lists

namespace ComponentView

/-- The head of a component around what it takes the props apart by. -/
def headText (v : ComponentView) (pattern : String) : String :=
  "export const " ++ v.name ++ " = forwardRef<HTMLDivElement, " ++ v.name ++ "Props>((\x7b\n" ++
    pattern ++ "  ...props\n" ++ "\x7d, ref) => \x7b\n"

/-- The place of a category among the sections of some props: the known categories have theirs, and
the others come behind them by first use. -/
def sectionPlace (props : List PropSpec) (category : String) : Nat :=
  (Assoc.keys sectionTitles ++ props.map sectionCategory).idxOf category

section Order

variable {α : Type} [DecidableEq α]

/-- **The order of first use.** Without its repetitions a list has its items in the order in which it
first had them. -/
theorem pairwise_eraseDups (l : List α) :
    l.eraseDups.Pairwise fun a b => l.idxOf a < l.idxOf b := by
  induction l using List.reverseRecOn with
  | nil => exact .nil
  | append_singleton l x ih =>
    have before : l.eraseDups.Pairwise fun a b => (l ++ [x]).idxOf a < (l ++ [x]).idxOf b := by
      refine ih.imp_of_mem ?_
      intro a b ha hb earlier
      rw [List.idxOf_append_of_mem (List.mem_eraseDups.mp ha),
        List.idxOf_append_of_mem (List.mem_eraseDups.mp hb)]
      exact earlier
    by_cases old : x ∈ l
    · have same : (l ++ [x]).eraseDups = l.eraseDups := by
        simp [List.eraseDups_append, List.removeAll, old]
      rw [same]
      exact before
    · have new : (l ++ [x]).eraseDups = l.eraseDups ++ [x] := by
        have kept : [x].removeAll l = [x] := by simp [List.removeAll, old]
        rw [List.eraseDups_append, kept]
        rfl
      rw [new, List.pairwise_append]
      refine ⟨before, List.pairwise_singleton _ _, ?_⟩
      intro a ha b hb
      have mem : a ∈ l := List.mem_eraseDups.mp ha
      rw [List.mem_singleton.mp hb, List.idxOf_append_of_mem mem, List.idxOf_append_of_notMem old]
      have place := List.idxOf_lt_length_of_mem mem
      omega

end Order

section Categories

variable {props : List PropSpec}

/-- **The categories** are in the order of their places. -/
theorem pairwise_sectionCategories (props : List PropSpec) :
    (sectionCategories props).Pairwise fun c d => sectionPlace props c < sectionPlace props d := by
  have known {c : String} (h : c ∈ Assoc.keys sectionTitles) :
      sectionPlace props c = (Assoc.keys sectionTitles).idxOf c := List.idxOf_append_of_mem h
  have other {c : String} (h : c ∉ Assoc.keys sectionTitles) :
      sectionPlace props c =
        (Assoc.keys sectionTitles).length + (props.map sectionCategory).idxOf c :=
    List.idxOf_append_of_notMem h
  have away {c : String} (h : c ∈ (props.map sectionCategory).eraseDups.filter
      fun c => !(Assoc.keys sectionTitles).contains c) : c ∉ Assoc.keys sectionTitles := by
    simpa using (List.mem_filter.mp h).2
  rw [sectionCategories, List.pairwise_append]
  refine ⟨?known, ?others, ?between⟩
  case known =>
    have fixed : (Assoc.keys sectionTitles).Pairwise fun c d =>
        (Assoc.keys sectionTitles).idxOf c < (Assoc.keys sectionTitles).idxOf d := by decide
    refine fixed.imp_of_mem ?_
    intro c d hc hd earlier
    rw [known hc, known hd]
    exact earlier
  case others =>
    refine ((pairwise_eraseDups (props.map sectionCategory)).filter _).imp_of_mem ?_
    intro c d hc hd earlier
    rw [other (away hc), other (away hd)]
    omega
  case between =>
    intro c hc d hd
    have place := List.idxOf_lt_length_of_mem hc
    rw [known hc, other (away hd)]
    omega

/-- **One section.** It has all props of its category, in the order of their declaration, and it is not
empty. -/
theorem of_mem_sectionsOf {s : PropSection} (mem : s ∈ sectionsOf props) :
    s.title = sectionTitle s.category ∧ s.props ≠ [] ∧
      s.props = props.filter (sectionCategory · = s.category) := by
  obtain ⟨c, -, made⟩ := List.mem_filterMap.mp mem
  cases members : props.filter (sectionCategory · = c) with
  | nil =>
    rw [members] at made
    cases made
  | cons p rest =>
    rw [members] at made
    cases made
    exact ⟨rfl, List.cons_ne_nil _ _, members.symm⟩

/-- The sections have categories in their order, each at most once. -/
theorem categories_sublist (props : List PropSpec) :
    ((sectionsOf props).map (·.category)).Sublist (sectionCategories props) := by
  rw [sectionsOf]
  induction sectionCategories props with
  | nil => exact .slnil
  | cons c categories ih =>
    rw [List.filterMap_cons]
    cases props.filter (sectionCategory · = c) with
    | nil => exact ih.cons c
    | cons p rest => exact ih.cons_cons c

theorem newline_notMem_sectionTitle (category : String) :
    '\n' ∉ (sectionTitle category).toList := by
  have all : ∀ t ∈ sectionTitles.map (·.2), '\n' ∉ t.toList := by decide
  rw [sectionTitle]
  cases found : Assoc.get? category sectionTitles with
  | none => decide
  | some title => exact all title (List.mem_map_of_mem (Assoc.mem_of_get? found))

/-- **Where a prop is.** It is in the section of its category and in no other. -/
theorem existsUnique_section {p : PropSpec} (mem : p ∈ props) :
    ∃! s, s ∈ sectionsOf props ∧ p ∈ s.props := by
  obtain ⟨s, hs, hp⟩ := List.mem_flatMap.mp ((sectionsOf_perm props).mem_iff.mpr mem)
  refine ⟨s, ⟨hs, hp⟩, ?_⟩
  rintro t ⟨ht, hpt⟩
  obtain ⟨titleS, -, membersS⟩ := of_mem_sectionsOf hs
  obtain ⟨titleT, -, membersT⟩ := of_mem_sectionsOf ht
  have categoryS : sectionCategory p = s.category := by
    rw [membersS] at hp
    simpa using (List.mem_filter.mp hp).2
  have categoryT : sectionCategory p = t.category := by
    rw [membersT] at hpt
    simpa using (List.mem_filter.mp hpt).2
  have same : t.category = s.category := categoryT.symm.trans categoryS
  cases s
  cases t
  simp_all

end Categories

/-- **The texts by section** in a component for Next.js: the interface of its props, and its head. -/
theorem render_listings (v : ComponentView) : ∃ front between back,
    Generator.render ⟨.nextjs, v⟩ (Template.library none) .component =
      .ok (front ++ v.interfaceText v.sectionedMembers ++ between ++ v.patternText ++ back) := by
  obtain ⟨text, rendered⟩ := Generator.render_bundled ⟨.nextjs, v⟩ .component
  rw [rendered]
  have name : Part.component.template .nextjs = "nextjs/component.tsx.j2" := by decide
  rw [Generator.render_eq_renderPieces name rfl] at rendered
  have split : Bundled.reactComponent = Bundled.reactComponent.take 14 ++
      ([Bundled.reactComponent[14]] ++ ((Bundled.reactComponent.drop 15).take 2 ++
        ((Bundled.reactComponent.drop 17).take 8 ++ Bundled.reactComponent.drop 25))) := rfl
  rw [split] at rendered
  obtain ⟨front, _, -, t₁, rfl⟩ := exists_of_renderPieces_append rendered
  obtain ⟨_, _, interface, t₂, rfl⟩ := exists_of_renderPieces_append t₁
  obtain ⟨between, _, -, t₃, rfl⟩ := exists_of_renderPieces_append t₂
  obtain ⟨_, back, pattern, -, rfl⟩ := exists_of_renderPieces_append t₃
  have inserted : renderPiece (Template.render (Template.library none) 199)
      "nextjs/component.tsx.j2" Bundled.reactComponent[14] (Generator.scope ⟨.nextjs, v⟩) =
        .ok (v.interfaceText v.sectionedMembers) := render_sectioned rfl
  cases interface.symm.trans (renderPieces_cons inserted renderPieces_nil)
  cases pattern.symm.trans (render_pattern rfl)
  refine ⟨front, between, back, congrArg Except.ok ?_⟩
  simp only [String.append_empty, String.append_assoc]

/-- **The interface by section** in the types of a component, for every framework. -/
theorem render_typesListing (v : ComponentView) (framework : Framework) : ∃ front back,
    Generator.render ⟨framework, v⟩ (Template.library none) .types =
      .ok (front ++ v.interfaceText v.sectionedMembers ++ back) := by
  have found : Template.library none "shared/types.ts.j2" = .ok Bundled.types := rfl
  have mem : .insert "shared/props_interface.ts.j2" ∈ Bundled.types :=
    List.mem_of_getElem? (i := 4) rfl
  exact render_inserted (g := ⟨framework, v⟩) rfl found mem

variable {tables : Classification} {schema : Schema} {v : ComponentView}

/-- **The sections partition the props.** Every prop is in one section, that of its category, and in
no other; a prop without a category counts as unknown. No section is empty, and each has its props in
the order of their declaration. The categories differ and are in their order: first the known ones,
then the others by first use. The interface and the head of a component list the props as the sections
have them, each prop once and both in one order. -/
theorem sections_partition (h : ofSchema tables schema = .ok v) :
    let props := schema.contract.props
    let listed := v.sections.flatMap (·.props)
    listed.Perm props ∧
    (∀ p ∈ props, ∃! s, s ∈ v.sections ∧ p ∈ s.props) ∧
    (∀ s ∈ v.sections, s.props ≠ [] ∧ s.props = props.filter fun p =>
      (if p.category = "" then "unknown" else p.category) = s.category) ∧
    (v.sections.map (·.category)).Pairwise (fun c d =>
      c ≠ d ∧ sectionPlace props c < sectionPlace props d) ∧
    ∃ members pattern,
      Lists PropSpec.memberText listed members ∧ Lists PropSpec.patternLine listed pattern ∧
      (∃ front between back, Generator.render ⟨.nextjs, v⟩ (Template.library none) .component =
        .ok (front ++ v.interfaceText members ++ between ++ v.headText pattern ++ back)) ∧
      ∀ framework, ∃ front back,
        Generator.render ⟨framework, v⟩ (Template.library none) .types =
          .ok (front ++ v.interfaceText members ++ back) := by
  have made : v.sections = sectionsOf schema.contract.props := (shows_of_ofSchema h).sections
  have titled (s : PropSection) (hs : s ∈ v.sections) : '\n' ∉ s.title.toList := by
    rw [made] at hs
    rw [(of_mem_sectionsOf hs).1]
    exact newline_notMem_sectionTitle s.category
  intro props listed
  refine ⟨?perm, ?unique, ?each, ?order, v.sectionedMembers,
    String.join (v.sections.map PropSection.patternText), ?members, ?pattern,
    v.render_listings, v.render_typesListing⟩
  case perm =>
    simp only [listed, made]
    exact sectionsOf_perm props
  case unique =>
    intro p hp
    rw [made]
    exact existsUnique_section hp
  case each =>
    intro s hs
    rw [made] at hs
    exact (of_mem_sectionsOf hs).2
  case order =>
    rw [made]
    refine ((pairwise_sectionCategories props).sublist (categories_sublist props)).imp ?_
    intro c d earlier
    refine ⟨?_, earlier⟩
    rintro rfl
    exact Nat.lt_irrefl _ earlier
  case members =>
    apply Lists.separated
    intro s hs
    exact Lists.titled (titled s hs) s.props
  case pattern =>
    apply Lists.joined
    intro s hs
    exact Lists.titled (titled s hs) s.props

/-- A component whose props are of known categories, of others and of none, in no order. -/
def mixed : Schema where
  contract := {
    componentName := "Tag"
    props := [⟨"icon", "string", false, "media", none⟩, ⟨"onClose", "() => void", false, "events", none⟩,
      ⟨"data", "object", true, "", none⟩, ⟨"size", "string", false, "layout", none⟩,
      ⟨"image", "string", false, "media", some "Shown first"⟩, ⟨"children", "ReactNode", true, "core", none⟩,
      ⟨"rest", "object", false, "unknown", none⟩]
    events := [], variants := [], slots := [], accessibility := [], description := none }
  implementation := {
    type := "functional", forwardRef := false, refs := [], context := [], imports := [], hooks := [] }
  state := { localState := [], contextState := [], effects := [], derivedState := [] }
  provenance := ⟨"Tag.tsx", ⟨2024, 1, 2, 3, 4, 5, 0, none⟩, ⟨[], []⟩, schemaVersion⟩

theorem sections_partition_mixed :
    ∃ v, ofSchema .standard mixed = .ok v ∧
      v.sections.map (fun s => (s.category, s.props.map (·.name))) =
        [("core", ["children"]), ("events", ["onClose"]), ("unknown", ["data", "rest"]),
          ("media", ["icon", "image"]), ("layout", ["size"])] ∧
      (v.sections.flatMap (·.props)).Perm mixed.contract.props := by
  have found : (ofSchema .standard mixed).toOption.map (fun v =>
      v.sections.map fun s => (s.category, s.props.map (·.name))) =
        some [("core", ["children"]), ("events", ["onClose"]), ("unknown", ["data", "rest"]),
          ("media", ["icon", "image"]), ("layout", ["size"])] := by decide +kernel
  cases h : ofSchema .standard mixed with
  | error r =>
    rw [h] at found
    cases found
  | ok v =>
    rw [h] at found
    exact ⟨v, rfl, Option.some.inj found, (sections_partition h).1⟩

end ComponentView

end PropForge
