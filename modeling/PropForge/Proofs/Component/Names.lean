import Mathlib.Data.Finset.Card
import Mathlib.Data.List.Forall2
import Mathlib.Data.List.Nodup
import PropForge.Proofs.Component.View
import PropForge.Proofs.Text.Case

/-!
# Names that clash with no other name

State variables, their setters and the results of hooks are named in two passes over one growing
list of reserved names:

* `exists_isFree`: there are more numbered forms than reserved names can block, because no name
  stands in the way of two of them;
* `freeName_spec`: so a search for a free name ends at the first one;
* `freeName_eq_numbered_iff`: no other form is chosen;
* `freeName_eq_self_iff`: a name is kept if it is free with all that it takes;
* `Fresh`: the invariant of both passes, that the names given so far differ from each other and
  from all names reserved before;
* `boundNames_fresh`: no two of the names that a view declares are the same, and none is a prop's,
  the template's or the component's own.
-/

namespace PropForge.ComponentView

/-- What is put behind a base to number it. -/
def suffix (n : Nat) : String := if n = 0 then "" else String.ofList (Number.digits (n + 1))

theorem numbered_eq_append (base : String) (n : Nat) : numbered base n = base ++ suffix n := by
  by_cases h : n = 0 <;> simp [numbered, suffix, h]

theorem suffix_injective : Function.Injective suffix := by
  intro m n h
  by_cases hm : m = 0 <;> by_cases hn : n = 0
  · rw [hm, hn]
  · simp [suffix, hm, hn, Number.digits_ne_nil, ← String.toList_inj] at h
  · simp [suffix, hm, hn, Number.digits_ne_nil] at h
  · simp only [suffix, hm, hn, if_false, String.ofList_inj] at h
    have := Number.digits_injective h
    omega

theorem append_suffix_injective (base : String) : Function.Injective fun n => base ++ suffix n := by
  intro m n h
  have h' := congrArg String.toList h
  simp only [String.toList_append, List.append_cancel_left_eq] at h'
  exact suffix_injective (String.toList_inj.mp h')

theorem numbered_injective (base : String) : Function.Injective (numbered base) := by
  intro m n h
  rw [numbered_eq_append, numbered_eq_append] at h
  exact append_suffix_injective base h

/-- A base that is no text at all is numbered by digits, which have no upper case. -/
theorem upperFirst_numbered (base : String) (n : Nat) :
    Text.upperFirst (numbered base n) = Text.upperFirst base ++ suffix n := by
  rw [numbered_eq_append]
  by_cases h : base = ""
  · subst h
    by_cases hn : n = 0
    · subst hn; rfl
    · simp only [suffix, hn, if_false, String.empty_append, Text.upperFirst_digits]
      rfl
  · exact Text.upperFirst_append _ h

theorem setterName_numbered (base : String) (n : Nat) :
    setterName (numbered base n) = setterName base ++ suffix n := by
  rw [setterName, upperFirst_numbered, ← String.append_assoc, setterName]

theorem isDigit_of_mem_suffix {n : Nat} {c : Char} (h : c ∈ (suffix n).toList) :
    c.isDigit = true := by
  by_cases hn : n = 0
  · simp [suffix, hn] at h
  · rw [suffix, if_neg hn, String.toList_ofList] at h
    exact Number.isDigit_of_mem_digits h

/-- Numbering a name adds nothing but digits. -/
theorem countP_append_suffix (name : String) (n : Nat) :
    (name ++ suffix n).toList.countP (!·.isDigit) = name.toList.countP (!·.isDigit) := by
  have digits : (suffix n).toList.countP (!·.isDigit) = 0 := by
    rw [List.countP_eq_zero]
    intro c hc
    simp [isDigit_of_mem_suffix hc]
  rw [String.toList_append, List.countP_append, digits, Nat.add_zero]

/-- A numbered setter is no numbered form of the name that it sets. If it were, the name would begin
as its setter does, and the setter would have three letters more. -/
theorem setterName_append_suffix_ne (base : String) (m n : Nat) :
    setterName base ++ suffix m ≠ base ++ suffix n := by
  intro h
  have letters := congrArg (fun s => s.toList.countP (!·.isDigit)) h
  simp only [countP_append_suffix] at letters
  cases chars : base.toList with
  | nil =>
    rw [String.toList_eq_nil_iff.mp chars] at letters
    cases letters
  | cons c rest =>
    have base_eq : base = String.ofList (c :: rest) := by rw [← chars, String.ofList_toList]
    have first : c = 's' := by
      have heads := congrArg (fun s => s.toList.head?) h
      simpa [setterName, chars] using heads.symm
    subst base_eq first
    rw [setterName, Text.upperFirst_ofList_cons, String.toList_append, String.toList_ofList,
      String.toList_ofList] at letters
    have upper : Text.upperChar 's' = ['S'] := rfl
    simp [upper] at letters
    omega

/-- No name is its own setter. -/
theorem setterName_ne (name : String) : setterName name ≠ name := by
  have zero : suffix 0 = "" := rfl
  simpa only [zero, String.append_empty] using setterName_append_suffix_ne name 0 0

/-- The name that stands in the way of a numbered form if one does: the form itself if it is
reserved, or else its setter. -/
def blocker (reserved : List String) (base : String) (n : Nat) : String :=
  if numbered base n ∈ reserved then numbered base n else setterName (numbered base n)

/-- No name stands in the way of two forms, neither twice in one role nor once in each. -/
theorem blocker_injective (reserved : List String) (base : String) :
    Function.Injective (blocker reserved base) := by
  intro m n h
  by_cases hm : numbered base m ∈ reserved <;> by_cases hn : numbered base n ∈ reserved <;>
    simp only [blocker, hm, hn, if_true, if_false] at h
  · exact numbered_injective base h
  · rw [numbered_eq_append, setterName_numbered] at h
    exact absurd h.symm (setterName_append_suffix_ne base n m)
  · rw [setterName_numbered, numbered_eq_append] at h
    exact absurd h (setterName_append_suffix_ne base m n)
  · rw [setterName_numbered, setterName_numbered] at h
    exact append_suffix_injective _ h

/-- Of names that all differ, one more than a list has cannot all be in the list. -/
theorem exists_notMem {name : Nat → String} (injective : Function.Injective name)
    (names : List String) : ∃ n ≤ names.toFinset.card, name n ∉ names := by
  by_contra all
  push Not at all
  have sub : (Finset.range (names.toFinset.card + 1)).image name ⊆ names.toFinset := by
    intro x hx
    obtain ⟨n, hn, rfl⟩ := Finset.mem_image.mp hx
    exact List.mem_toFinset.mpr (all n (Nat.le_of_lt_succ (Finset.mem_range.mp hn)))
  have le := Finset.card_le_card sub
  rw [Finset.card_image_of_injective _ injective, Finset.card_range] at le
  omega

/-- A form is free after no more others than there are reserved names. -/
theorem exists_isFree (reserved : List String) (withSetter : Bool) (base : String) :
    ∃ n ≤ reserved.toFinset.card, isFree reserved withSetter (numbered base n) = true := by
  obtain ⟨n, le, notMem⟩ := exists_notMem (blocker_injective reserved base) reserved
  have own : numbered base n ∉ reserved := by
    intro mem
    rw [blocker, if_pos mem] at notMem
    exact notMem mem
  rw [blocker, if_neg own] at notMem
  refine ⟨n, le, ?_⟩
  simp [isFree, own, notMem]

/-- A search through the numbered forms of a name ends at the first that is wanted. -/
theorem find?_numbered (wanted : String → Bool) {base : String} {bound : Nat}
    (h : ∃ n < bound, wanted (numbered base n) = true) :
    ∃ n < bound,
      (((List.range bound).map (numbered base)).find? wanted).getD base = numbered base n ∧
      wanted (numbered base n) = true ∧ ∀ m < n, wanted (numbered base m) = false := by
  obtain ⟨n, hn, holds⟩ := h
  cases found : (List.range bound).find? (wanted ∘ numbered base) with
  | none =>
    have := List.find?_eq_none.mp found n (List.mem_range.mpr hn)
    simp [holds] at this
  | some k =>
    obtain ⟨hk, range, before⟩ := List.find?_range_eq_some.mp found
    refine ⟨k, List.mem_range.mp range, ?_, hk, fun m hm => by simpa using before m hm⟩
    simp only [List.find?_map, found, Option.map_some, Option.getD_some]

/-- The chosen name is the first of the numbered forms that is free. -/
theorem freeName_spec (reserved : List String) (withSetter : Bool) (base : String) :
    ∃ n ≤ reserved.toFinset.card, freeName reserved withSetter base = numbered base n ∧
      isFree reserved withSetter (numbered base n) = true ∧
      ∀ m < n, isFree reserved withSetter (numbered base m) = false := by
  obtain ⟨k, le, free'⟩ := exists_isFree reserved withSetter base
  have few := List.toFinset_card_le reserved
  have within : k < 2 * reserved.length + 1 := by omega
  obtain ⟨n, -, chosen, free, least⟩ := find?_numbered _ ⟨k, within, free'⟩
  refine ⟨n, ?_, chosen, free, least⟩
  by_contra more
  rw [least k (by omega)] at free'
  cases free'

/-- A name is free if all that it takes is. -/
theorem isFree_iff {reserved : List String} {withSetter : Bool} {name : String} :
    isFree reserved withSetter name = true ↔ ∀ n ∈ taken withSetter name, n ∉ reserved := by
  cases withSetter <;> simp [isFree, taken]

/-- The chosen name is the first form that is free, and no other. -/
theorem freeName_eq_numbered_iff {reserved : List String} {withSetter : Bool} {base : String}
    {n : Nat} : freeName reserved withSetter base = numbered base n ↔
      isFree reserved withSetter (numbered base n) = true ∧
        ∀ m < n, isFree reserved withSetter (numbered base m) = false := by
  obtain ⟨k, -, chosen, free, least⟩ := freeName_spec reserved withSetter base
  rw [chosen]
  constructor
  · intro same
    rw [← numbered_injective base same]
    exact ⟨free, least⟩
  · rintro ⟨free', least'⟩
    rcases Nat.lt_trichotomy k n with lt | eq | gt
    · rw [least' k lt] at free
      cases free
    · rw [eq]
    · rw [least n gt] at free'
      cases free'

/-- A name is kept if and only if all that it takes is free. -/
theorem freeName_eq_self_iff {reserved : List String} {withSetter : Bool} {base : String} :
    freeName reserved withSetter base = base ↔
      ∀ n ∈ taken withSetter base, n ∉ reserved := by
  have zero : numbered base 0 = base := rfl
  have first : freeName reserved withSetter base = numbered base 0 ↔ _ := freeName_eq_numbered_iff
  rw [zero] at first
  rw [first, isFree_iff]
  exact ⟨And.left, fun free => ⟨free, nofun⟩⟩

/-- Names that differ from each other and from all that are reserved. -/
structure Fresh (reserved names : List String) : Prop where
  nodup : names.Nodup
  apart : ∀ n ∈ names, n ∉ reserved

theorem Fresh.nil (reserved : List String) : Fresh reserved [] := ⟨List.nodup_nil, by simp⟩

theorem Fresh.mono {reserved more names : List String} (h : Fresh more names)
    (sub : ∀ n ∈ reserved, n ∈ more) : Fresh reserved names :=
  ⟨h.nodup, fun n hn hr => h.apart n hn (sub n hr)⟩

theorem Fresh.perm {reserved names names' : List String} (h : Fresh reserved names)
    (p : names.Perm names') : Fresh reserved names' :=
  ⟨p.nodup_iff.mp h.nodup, fun n hn => h.apart n (p.mem_iff.mpr hn)⟩

/-- Names given after others were reserved too stay apart from those others. -/
theorem Fresh.append {reserved first later : List String} (h : Fresh reserved first)
    (h' : Fresh (first ++ reserved) later) : Fresh reserved (first ++ later) := by
  constructor
  · refine List.nodup_append.mpr ⟨h.nodup, h'.nodup, ?_⟩
    rintro n hn _ hl rfl
    exact h'.apart n hl (List.mem_append_left _ hn)
  · intro n hn hr
    rcases List.mem_append.mp hn with hn | hn
    · exact h.apart n hn hr
    · exact h'.apart n hn (List.mem_append_right _ hr)

/-- What a chosen name takes is not taken yet. -/
theorem fresh_taken_freeName (reserved : List String) (withSetter : Bool) (base : String) :
    Fresh reserved (taken withSetter (freeName reserved withSetter base)) := by
  obtain ⟨n, -, chosen, free, -⟩ := freeName_spec reserved withSetter base
  rw [← chosen] at free
  cases withSetter with
  | false =>
    refine ⟨by simp [taken], ?_⟩
    simpa [taken, isFree] using free
  | true =>
    have := setterName_ne (freeName reserved true base)
    refine ⟨by simpa [taken] using this.symm, ?_⟩
    simpa [taken, isFree] using free

/-- The values and the setters of state variables. -/
def stateNames (state : List StateVariable) : List String :=
  state.flatMap fun s => taken true s.name

theorem nameState_fresh (reserved : List String) (states : List StateVariable) :
    Fresh reserved (stateNames (nameState reserved states).1) := by
  induction states generalizing reserved with
  | nil => exact .nil _
  | cons s rest ih =>
    simp only [nameState, stateNames, List.flatMap_cons]
    exact (fresh_taken_freeName reserved true s.name).append (ih _)

/-- After the state is named its names are reserved, and nothing is given back. -/
theorem mem_nameState_reserved (reserved : List String) (states : List StateVariable)
    (n : String) :
    n ∈ (nameState reserved states).2 ↔
      n ∈ stateNames (nameState reserved states).1 ∨ n ∈ reserved := by
  induction states generalizing reserved with
  | nil => simp [nameState, stateNames]
  | cons s rest ih =>
    simp only [nameState, stateNames, List.flatMap_cons, List.mem_append]
    rw [ih, List.mem_append]
    simp only [stateNames]
    tauto

/-- A variable keeps its place, its type and its default; its new name is its old one, perhaps with
a number. -/
theorem nameState_forall₂ (reserved : List String) (states : List StateVariable) :
    List.Forall₂ (fun s t => (∃ n, t.name = numbered s.name n) ∧ t.type = s.type ∧
      t.defaultValue = s.defaultValue) states (nameState reserved states).1 := by
  induction states generalizing reserved with
  | nil => exact .nil
  | cons s rest ih =>
    obtain ⟨n, -, chosen, -⟩ := freeName_spec reserved true s.name
    exact .cons ⟨⟨n, chosen⟩, rfl, rfl⟩ (ih _)

theorem nameHooks_fresh (reserved hooks : List String) :
    Fresh reserved ((nameHooks reserved hooks).map (·.result)) := by
  induction hooks generalizing reserved with
  | nil => exact .nil _
  | cons hook rest ih =>
    have first := fresh_taken_freeName (hook :: reserved) false (hookResult hook)
    exact (first.append (ih _)).mono fun n hn => List.mem_cons_of_mem _ hn

/-- The names that the generated component declares for its state and for what hooks return. -/
def boundNames (v : ComponentView) : List String :=
  v.state.map (·.name) ++ v.state.map (fun s => setterName s.name) ++ v.customHooks.map (·.result)

/-- Values and setters in one list, or first all values and then all setters. -/
theorem stateNames_perm (state : List StateVariable) :
    (stateNames state).Perm
      (state.map (·.name) ++ state.map fun s => setterName s.name) := by
  induction state with
  | nil => exact .nil
  | cons s rest ih =>
    simp only [stateNames, List.flatMap_cons, taken, if_true, List.map_cons, List.cons_append,
      List.nil_append]
    exact .cons _ ((ih.cons _).trans List.perm_middle.symm)

theorem boundNames_fresh {tables : Classification} {schema : Schema}
    {v : ComponentView} (h : ofSchema tables schema = .ok v) :
    Fresh (reservedNames schema.contract.componentName schema.contract.props) v.boundNames := by
  have shows := shows_of_ofSchema h
  rw [boundNames, shows.state, shows.customHooks]
  refine (((nameState_fresh _ _).append ?_).perm ((stateNames_perm _).append_right _))
  refine (nameHooks_fresh _ _).mono fun n hn => ?_
  exact (mem_nameState_reserved _ _ n).mpr (List.mem_append.mp hn)

/-- **No name is bound twice.** The values, setters and hook results of a view are pairwise
different, and none is the local name of a prop, a name of the template or the component's own.
State variables keep their order, their types and their defaults. -/
theorem boundNames_never_clash {tables : Classification} {schema : Schema} {v : ComponentView}
    (h : ofSchema tables schema = .ok v) :
    v.boundNames.Nodup ∧
    (∀ n ∈ v.boundNames,
      (∀ p ∈ schema.contract.props, n ≠ Naming.localName p.name) ∧
      n ∉ ["props", "ref", "ouiaProps", "cssClasses", "styles", "css"] ∧
      n ≠ schema.contract.componentName) ∧
    List.Forall₂ (fun s t => (∃ k, t.name = numbered s.name k) ∧ t.type = s.type ∧
      t.defaultValue = s.defaultValue) schema.state.localState v.state := by
  obtain ⟨nodup, apart⟩ := boundNames_fresh h
  refine ⟨nodup, fun n hn => ?_, ?_⟩
  · have := apart n hn
    simp only [reservedNames, List.mem_append, List.mem_map, List.mem_singleton, not_or,
      not_exists, not_and] at this
    obtain ⟨⟨noProp, noLocal⟩, noComponent⟩ := this
    exact ⟨fun p hp same => noProp p hp same.symm, noLocal, noComponent⟩
  · simp only [ofSchema] at h
    split at h
    · cases h
    · cases h
      exact nameState_forall₂ _ _

/-- A component in which state, setters and hooks all ask for names that are taken. -/
def crowded : Schema where
  contract := {
    componentName := "Card"
    props := [⟨"open", "boolean", false, "core", none⟩, ⟨"aria-label", "string", false, "core", none⟩]
    events := [], variants := [], slots := [], accessibility := [], description := none }
  implementation := {
    type := "functional", forwardRef := false, refs := [], context := [], imports := []
    hooks := [⟨"useState", []⟩, ⟨"useOpen", []⟩, ⟨"useCss", []⟩, ⟨"useOpen", []⟩] }
  state := {
    localState := [⟨"open", "boolean", some "false"⟩, ⟨"open", "string", none⟩,
      ⟨"setOpen2", "any", none⟩, ⟨"open2", "any", none⟩]
    contextState := [], effects := [], derivedState := [] }
  provenance := ⟨"Card.tsx", ⟨2024, 1, 2, 3, 4, 5, 0, none⟩, ⟨[], []⟩, schemaVersion⟩

theorem boundNames_never_clash_crowded :
    ∃ v, ofSchema .standard crowded = .ok v ∧
      v.boundNames = ["open2", "open3", "setOpen22", "open23", "setOpen2", "setOpen3",
        "setSetOpen22", "setOpen23", "open4", "css2"] ∧ v.boundNames.Nodup := by
  have found : (ofSchema .standard crowded).toOption.map boundNames =
      some ["open2", "open3", "setOpen22", "open23", "setOpen2", "setOpen3",
        "setSetOpen22", "setOpen23", "open4", "css2"] := by decide +kernel
  cases h : ofSchema .standard crowded with
  | error e => rw [h] at found; cases found
  | ok v =>
    rw [h] at found
    exact ⟨v, rfl, Option.some.inj found, (boundNames_never_clash h).1⟩

end PropForge.ComponentView
