import Mathlib.Data.List.Basic
import Mathlib.Data.List.Infix
import Mathlib.Data.List.Nodup
import PropForge.Extraction

/-!
# Events

The events of a component are those of its props whose names are names of events, and then the events
of an element that no prop declares, if the interface extends the props of one. Whether a prop counts
as an event has to do with its name alone, and not with the rules that come first when it is classified:

* `isEventName_iff`, `extendsHtmlProps_iff`: names of events, and interfaces that inherit them;
* `categorize_eq_events_iff`: which props are classified as events;
* `map_name_props`: which props there are, and in which order;
* `events_spec`: which events there are.
-/

namespace PropForge

namespace Text

theorem contains_iff {needle cs : List Char} : contains needle cs = true ↔ needle <:+: cs := by
  induction cs with
  | nil => rw [contains, List.isEmpty_iff, List.infix_nil]
  | cons c rest ih =>
    rw [contains, Bool.or_eq_true, List.isPrefixOf_iff_prefix, ih, List.infix_cons_iff]

theorem occursIn_iff {needle s : String} :
    occursIn needle s = true ↔ needle.toList <:+: s.toList := contains_iff

end Text

namespace Classification

variable {tables : Classification} {name type heritage : String}

/-- The name of an event begins with the event prefix and goes on after it. -/
def NamesEvent (tables : Classification) (name : String) : Prop :=
  ∃ rest, rest ≠ "" ∧ name = tables.eventPrefix ++ rest

/-- An interface inherits events if it extends something that is called like a base. -/
def Inherits (tables : Classification) (heritage : String) : Prop :=
  ∃ base ∈ tables.htmlPropsBases, base.toList <:+: heritage.toList

/-- A rule that comes before the one of events applies to a prop. -/
inductive ClassifiedBefore (tables : Classification) (name type : String) : Prop where
  | core (known : name ∈ tables.coreNames)
  | styling {keyword : String} (known : keyword ∈ tables.stylingKeywords)
      (occurs : keyword.toList <:+: name.toList ∨ keyword.toList <:+: type.toList)
  | leading {start : String} (known : start ∈ tables.accessibilityPrefixes)
      (starts : start.toList <+: name.toList)
  | accessibility {keyword : String} (known : keyword ∈ tables.accessibilityKeywords)
      (occurs : keyword.toList <:+: name.toList) (longer : name ≠ keyword)

theorem isEventName_iff : tables.isEventName name = true ↔ tables.NamesEvent name := by
  rw [isEventName, Bool.and_eq_true, List.isPrefixOf_iff_prefix, decide_eq_true_eq]
  constructor
  · rintro ⟨⟨rest, same⟩, longer⟩
    have whole : name = tables.eventPrefix ++ String.ofList rest := by
      apply String.toList_injective
      rw [String.toList_append, String.toList_ofList, same]
    refine ⟨String.ofList rest, ?_, whole⟩
    intro empty
    rw [empty, String.append_empty] at whole
    rw [whole] at longer
    exact Nat.lt_irrefl _ longer
  · rintro ⟨rest, nonempty, rfl⟩
    refine ⟨⟨rest.toList, String.toList_append.symm⟩, ?_⟩
    rw [String.length_append]
    have positive : rest.length ≠ 0 := fun h => nonempty (String.length_eq_zero_iff.mp h)
    omega

instance : DecidablePred tables.NamesEvent := fun _ => decidable_of_iff _ isEventName_iff

theorem extendsHtmlProps_iff :
    tables.extendsHtmlProps heritage = true ↔ tables.Inherits heritage := by
  rw [extendsHtmlProps, List.any_eq_true]
  simp only [Text.occursIn_iff, Inherits]

theorem classifiedBefore_iff : tables.ClassifiedBefore name type ↔
    tables.coreNames.contains name = true ∨
    (tables.stylingKeywords.any fun k => Text.occursIn k name || Text.occursIn k type) = true ∨
    (tables.accessibilityPrefixes.any fun p => p.toList.isPrefixOf name.toList) = true ∨
    (tables.accessibilityKeywords.any fun k => Text.occursIn k name && name ≠ k) = true := by
  simp only [List.contains_iff_mem, List.any_eq_true, Bool.or_eq_true, Bool.and_eq_true,
    Text.occursIn_iff, List.isPrefixOf_iff_prefix, decide_eq_true_eq]
  constructor
  · intro before
    cases before with
    | core known => exact .inl known
    | styling known occurs => exact .inr (.inl ⟨_, known, occurs⟩)
    | leading known starts => exact .inr (.inr (.inl ⟨_, known, starts⟩))
    | accessibility known occurs longer => exact .inr (.inr (.inr ⟨_, known, occurs, longer⟩))
  · rintro (known | ⟨k, known, occurs⟩ | ⟨p, known, starts⟩ | ⟨k, known, occurs, longer⟩)
    · exact .core known
    · exact .styling known occurs
    · exact .leading known starts
    · exact .accessibility known occurs longer

/-- **Which props are classified as events**: those whose names are names of events, unless a rule that
comes before applies to them. -/
theorem categorize_eq_events_iff : tables.categorize name type = "events" ↔
    tables.NamesEvent name ∧ ¬ tables.ClassifiedBefore name type := by
  rw [← isEventName_iff, classifiedBefore_iff, categorize]
  generalize tables.coreNames.contains name = core
  generalize (tables.stylingKeywords.any fun k => _) = styling
  generalize (tables.accessibilityPrefixes.any fun p => _) = leading
  generalize (tables.accessibilityKeywords.any fun k => _) = accessibility
  generalize tables.isEventName name = event
  generalize tables.isBooleanName name = boolean
  generalize (tables.complexTypeMarkers.any fun m => _) = complex
  revert core styling leading accessibility event boolean complex
  decide

end Classification

namespace Extraction

open TypeScript

variable {tables : Classification} {source : Source} {site : Site}

/-- The properties of an interface, in the order of the source. -/
def signatures (interface : Tree) : List Tree :=
  ((interface.child? .body).map fun body =>
    body.children.filter (·.kind = .propertySignature)).getD []

/-- A prop as an event that the interface declares. -/
def ownEvent (p : PropSpec) : EventSpec := ⟨p.name, p.type, p.description, false⟩

/-- An entry of the table as an event that comes with an element. -/
def elementEvent (entry : String × String) : EventSpec :=
  ⟨entry.1, entry.2, some "Inherited from React.HTMLProps", true⟩

theorem map_fst_properties (body : Tree) :
    (properties body).map Prod.fst = body.children.filter (·.kind = .propertySignature) := by
  have go (before members : List Tree) :
      (properties.go before members).map Prod.fst = members.filter (·.kind = .propertySignature) := by
    induction members generalizing before with
    | nil => rfl
    | cons m rest ih =>
      rw [properties.go]
      split
      · rename_i property
        rw [List.map_cons, ih, List.filter_cons, if_pos (decide_eq_true property)]
      · rename_i other
        rw [ih, List.filter_cons, if_neg (by rwa [decide_eq_true_eq])]
  exact go [] body.children

/-- **Which props there are**: one for each property of the interface. -/
theorem map_name_props (interface : Tree) : (props tables source interface).map (·.name) =
    (signatures interface).map fun m => unquote (childText source m .name) := by
  unfold props signatures
  cases interface.child? .body with
  | none => rfl
  | some body =>
    rw [Option.map_some, Option.getD_some, ← map_fst_properties, List.map_map, List.map_map]
    rfl

theorem category_of_mem_props {interface : Tree} {p : PropSpec}
    (mem : p ∈ props tables source interface) : p.category = tables.categorize p.name p.type := by
  unfold props at mem
  split at mem
  · obtain ⟨member, -, rfl⟩ := List.mem_map.mp mem
    rfl
  · cases mem

/-- The events that the interface declares. -/
theorem declaredEvents_eq (ps : List PropSpec) : declaredEvents tables ps =
    (ps.filter fun p => tables.NamesEvent p.name).map ownEvent := by
  have same (p : PropSpec) : tables.isEventName p.name = decide (tables.NamesEvent p.name) :=
    Bool.eq_iff_iff.mpr (Classification.isEventName_iff.trans decide_eq_true_iff.symm)
  exact congrArg (List.map ownEvent) (List.filter_congr fun p _ => same p)

/-- The events that come with an element. -/
theorem inheritedEvents_eq (ps : List PropSpec) : inheritedEvents tables (ps.map ownEvent) =
    (tables.inheritedEvents.filter fun e => e.1 ∉ ps.map (·.name)).map elementEvent := by
  have same (e : String × String) :
      (!(ps.map ownEvent).any (·.name = e.1)) = decide (e.1 ∉ ps.map (·.name)) := by
    rw [List.any_map, decide_not, Bool.not_inj_iff, Bool.eq_iff_iff, List.any_eq_true,
      decide_eq_true_iff, List.mem_map]
    exact exists_congr fun p => and_congr_right fun _ => decide_eq_true_iff
  exact congrArg (List.map elementEvent) (List.filter_congr fun e _ => same e)

/-- Names that differ among the props and in the table differ among the events. -/
theorem nodup_eventNames {ps : List PropSpec} {table : List (String × String)}
    (own : (ps.map (·.name)).Nodup) (given : (table.map Prod.fst).Nodup) :
    ((ps.map ownEvent ++ (table.filter fun e => e.1 ∉ ps.map (·.name)).map elementEvent).map
      (·.name)).Nodup := by
  have mine : (ps.map ownEvent).map (·.name) = ps.map (·.name) := by
    rw [List.map_map]
    rfl
  have more : ((table.filter fun e => e.1 ∉ ps.map (·.name)).map elementEvent).map (·.name) =
      (table.filter fun e => e.1 ∉ ps.map (·.name)).map Prod.fst := by
    rw [List.map_map]
    rfl
  rw [List.map_append, mine, more]
  refine own.append (given.sublist (List.filter_sublist.map _)) fun name declared inherited => ?_
  obtain ⟨e, mem, rfl⟩ := List.mem_map.mp inherited
  exact of_decide_eq_true (List.mem_filter.mp mem).2 declared

/-- **Which events there are.** The props of an interface are its properties, in order. First of the
events come, in the same order, the props whose names are names of events; then, if and only if the
interface inherits events, the entries of the table that have no name of these, in the order of the
table. A prop that is classified as an event is among the first, and no two events have one name if no
two props and no two entries have. -/
theorem events_spec (tables : Classification) (source : Source) (site : Site) :
    let contract := contractOf tables source site
    let declared := contract.props.filter fun p => tables.NamesEvent p.name
    contract.props.map (·.name) =
        (signatures site.tree).map (fun m => unquote (childText source m .name)) ∧
      (∃ inherited, contract.events = declared.map ownEvent ++ inherited ∧
        (tables.Inherits (heritage source site.tree) → inherited =
          (tables.inheritedEvents.filter fun e => e.1 ∉ declared.map (·.name)).map elementEvent) ∧
        (¬ tables.Inherits (heritage source site.tree) → inherited = [])) ∧
      (∀ p ∈ contract.props, p.category = "events" ↔
        p ∈ declared ∧ ¬ tables.ClassifiedBefore p.name p.type) ∧
      ((contract.props.map (·.name)).Nodup → (tables.inheritedEvents.map Prod.fst).Nodup →
        (contract.events.map (·.name)).Nodup) := by
  intro contract declared
  have events : contract.events = if tables.extendsHtmlProps (heritage source site.tree) then
      declared.map ownEvent ++
        (tables.inheritedEvents.filter fun e => e.1 ∉ declared.map (·.name)).map elementEvent
      else declared.map ownEvent := by
    rw [← inheritedEvents_eq, ← declaredEvents_eq]
    rfl
  refine ⟨map_name_props site.tree, ?split, fun p mem => ?classified, fun own given => ?distinct⟩
  case split =>
    rw [events, ← Classification.extendsHtmlProps_iff]
    by_cases inherits : tables.extendsHtmlProps (heritage source site.tree) = true
    · rw [if_pos inherits]
      exact ⟨_, rfl, fun _ => rfl, fun no => absurd inherits no⟩
    · rw [if_neg inherits]
      exact ⟨[], (List.append_nil _).symm, fun yes => absurd yes inherits, fun _ => rfl⟩
  case classified =>
    rw [category_of_mem_props mem, Classification.categorize_eq_events_iff]
    refine and_congr_left fun _ => ?_
    rw [List.mem_filter, decide_eq_true_iff]
    exact (and_iff_right mem).symm
  case distinct =>
    have own : (declared.map (·.name)).Nodup := own.sublist (List.filter_sublist.map _)
    rw [events]
    split
    · exact nodup_eventNames own given
    · rw [List.map_map]
      exact own

end Extraction

end PropForge
