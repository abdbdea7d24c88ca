import PropForge.Proofs.Component.Names
import PropForge.Proofs.Naming

/-!
# Stories of variants

Every value of a variant has a story. It is called by the value, or by prop and value if that name
is taken, and numbered if both are:

* `unusedName_spec`: the search for a name ends at the first form that is not used;
* `storyName_of_before`: what a story is called when those before it have their names;
* `storyNames_never_clash`: a view has one case for each value, and no two stories of one name.
-/

namespace PropForge.ComponentView

/-- **The search** for a name ends at the first numbered form that is not used. -/
theorem unusedName_spec (used : List String) (base : String) :
    ∃ n ≤ used.length, unusedName used base = numbered base n ∧ numbered base n ∉ used ∧
      ∀ m < n, numbered base m ∈ used := by
  have unused : ∃ n < used.length + 1, (!used.contains (numbered base n)) = true := by
    obtain ⟨n, hn, notMem⟩ := exists_notMem (numbered_injective base) used
    have few := List.toFinset_card_le used
    exact ⟨n, by omega, by simpa using notMem⟩
  obtain ⟨n, hn, chosen, free, least⟩ := find?_numbered (!used.contains ·) unused
  refine ⟨n, by omega, chosen, by simpa using free, ?_⟩
  intro m hm
  simpa using least m hm

/-- What the story of a value is called if it need not be numbered. -/
def storyBase (used : List String) (propName value : String) : String :=
  if Naming.pascalCase value ∈ used then Naming.pascalCase (propName ++ " " ++ value)
  else Naming.pascalCase value

section Cases

variable {used : List String} {values : List (String × String)} {propName value : String}

theorem storyName_eq : storyName used propName value =
    unusedName used (storyBase used propName value) := by
  simp only [storyName, storyBase, List.contains_iff_mem]

theorem storyName_notMem : storyName used propName value ∉ used := by
  obtain ⟨n, -, chosen, unused, -⟩ := unusedName_spec used (storyBase used propName value)
  rw [storyName_eq, chosen]
  exact unused

/-- Numbers go behind the capital letter with which a name begins. -/
theorem isCapitalized_storyName : Naming.IsCapitalized (storyName used propName value) := by
  have base : Naming.IsCapitalized (storyBase used propName value) := by
    unfold storyBase
    split
    · exact Naming.isCapitalized_pascalCase _
    · exact Naming.isCapitalized_pascalCase _
  obtain ⟨n, -, chosen, -⟩ := unusedName_spec used (storyBase used propName value)
  rw [storyName_eq, chosen, numbered_eq_append]
  apply base.append
  intro c hc
  by_cases first : n = 0
  · simp [suffix, first] at hc
  · simp only [suffix, first, if_false, String.toList_ofList] at hc
    simp [Char.isAlphanum, Number.isDigit_of_mem_digits hc]

theorem map_value_casesFrom :
    (casesFrom used values).map (fun c => (c.propName, c.value)) = values := by
  induction values generalizing used with
  | nil => rfl
  | cons v rest ih =>
    obtain ⟨propName, value⟩ := v
    simp only [casesFrom, List.map_cons, ih]

/-- Names that are given in turn differ from each other and from those used before. -/
theorem casesFrom_fresh : Fresh used ((casesFrom used values).map (·.storyName)) := by
  induction values generalizing used with
  | nil => exact .nil _
  | cons v rest ih =>
    obtain ⟨propName, value⟩ := v
    have first : Fresh used [storyName used propName value] := by
      constructor
      · simp
      · simpa using storyName_notMem
    exact first.append ih

theorem isCapitalized_of_mem_casesFrom {c : VariantCase} (mem : c ∈ casesFrom used values) :
    Naming.IsCapitalized c.storyName := by
  induction values generalizing used with
  | nil => cases mem
  | cons v rest ih =>
    obtain ⟨propName, value⟩ := v
    rcases List.mem_cons.mp mem with rfl | mem
    · exact isCapitalized_storyName
    · exact ih mem

/-- A case is named when those before it have their names. -/
theorem storyName_of_casesFrom {before after : List VariantCase} {c : VariantCase}
    (split : casesFrom used values = before ++ c :: after) :
    c.storyName =
      storyName ((before.map (·.storyName)).reverse ++ used) c.propName c.value := by
  induction before generalizing used values with
  | nil =>
    cases values with
    | nil => cases split
    | cons v rest =>
      obtain ⟨propName, value⟩ := v
      rw [casesFrom, List.nil_append, List.cons.injEq] at split
      obtain ⟨rfl, -⟩ := split
      rfl
  | cons d before ih =>
    cases values with
    | nil => cases split
    | cons v rest =>
      obtain ⟨propName, value⟩ := v
      rw [casesFrom, List.cons_append, List.cons.injEq] at split
      obtain ⟨rfl, split⟩ := split
      rw [ih split, List.map_cons, List.reverse_cons, List.append_assoc]
      rfl

/-- **One case.** Its story is called by the first form of its name that none before it has. -/
theorem storyName_of_before {before after : List VariantCase} {c : VariantCase}
    (split : casesFrom used values = before ++ c :: after) :
    let taken := used ++ before.map (·.storyName)
    ∃ n ≤ taken.length, c.storyName = numbered (storyBase taken c.propName c.value) n ∧
      c.storyName ∉ taken ∧
      ∀ m < n, numbered (storyBase taken c.propName c.value) m ∈ taken := by
  intro taken
  have same (name : String) :
      name ∈ (before.map (·.storyName)).reverse ++ used ↔ name ∈ taken := by
    simp only [taken, List.mem_append, List.mem_reverse, or_comm]
  have base : storyBase ((before.map (·.storyName)).reverse ++ used) c.propName c.value =
      storyBase taken c.propName c.value := by
    simp only [storyBase, same]
  obtain ⟨n, hn, chosen, unused, least⟩ := unusedName_spec
    ((before.map (·.storyName)).reverse ++ used) (storyBase taken c.propName c.value)
  have named : c.storyName = numbered (storyBase taken c.propName c.value) n := by
    rw [storyName_of_casesFrom split, storyName_eq, base, chosen]
  refine ⟨n, ?_, named, ?_, ?_⟩
  · simp only [taken, List.length_append, List.length_reverse, List.length_map] at hn ⊢
    omega
  · rw [named]
    exact mt (same _).mpr unused
  · intro m hm
    exact (same _).mp (least m hm)

end Cases

variable {tables : Classification} {schema : Schema} {v : ComponentView}

theorem bindVariant_variant (component : String) (props : List PropSpec) (w : VariantSpec) :
    (bindVariant component props w).variant = w := by
  unfold bindVariant
  dsimp only
  split
  · rfl
  · split <;> rfl

theorem variants_of_ofSchema (h : ofSchema tables schema = .ok v) :
    v.bindings.map (·.variant) = schema.contract.variants := by
  rw [(shows_of_ofSchema h).bindings, List.map_map]
  simp only [Function.comp_def, bindVariant_variant, List.map_id']

/-- **No story is told twice.** There is one case for each value of each variant, in their order, with
the prop that selects the variant. The names of the stories differ from each other and from the one
that is always there, and each begins with a capital letter and passes for an identifier of ASCII. A
name is that of the value, or that of prop and value if the first is taken, in the first of its
numbered forms that is not; so the numbering ends. -/
theorem storyNames_never_clash (h : ofSchema tables schema = .ok v) :
    v.bindings.map (·.variant) = schema.contract.variants ∧
    v.cases.map (fun c => (c.propName, c.value)) =
      v.bindings.flatMap (fun b => b.variant.values.map fun value => (b.propName, value)) ∧
    (v.cases.map (·.storyName)).Nodup ∧
    (∀ c ∈ v.cases, c.storyName ≠ "Default" ∧
      Naming.isStrictIdentifier c.storyName.toList = true ∧ Naming.IsCapitalized c.storyName) ∧
    ∀ before c after, v.cases = before ++ c :: after →
      let taken := "Default" :: before.map (·.storyName)
      let base := if Naming.pascalCase c.value ∈ taken
        then Naming.pascalCase (c.propName ++ " " ++ c.value) else Naming.pascalCase c.value
      ∃ n ≤ taken.length, c.storyName = numbered base n ∧ c.storyName ∉ taken ∧
        ∀ m < n, numbered base m ∈ taken := by
  have named : v.cases = casesFrom ["Default"] (variantValues v.bindings) :=
    (shows_of_ofSchema h).cases
  have fresh : Fresh ["Default"] (v.cases.map (·.storyName)) := by
    rw [named]
    exact casesFrom_fresh
  refine ⟨variants_of_ofSchema h, ?values, fresh.nodup, ?identifiers, ?numbers⟩
  case values =>
    rw [named, map_value_casesFrom]
    rfl
  case identifiers =>
    intro c hc
    have capitalized : Naming.IsCapitalized c.storyName := by
      apply isCapitalized_of_mem_casesFrom
      rwa [named] at hc
    refine ⟨?_, capitalized.isStrictIdentifier, capitalized⟩
    intro default
    have apart := fresh.apart _ (List.mem_map_of_mem hc)
    simp [default] at apart
  case numbers =>
    intro before c after split
    rw [named] at split
    exact storyName_of_before split

/-- A component with values that ask for one name, for the name of the story that is always there
and for no name at all. -/
def sized : Schema where
  contract := {
    componentName := "Button"
    props := [⟨"variant", "ButtonVariant", false, "styling", none⟩]
    events := [], slots := [], accessibility := [], description := none
    variants := [⟨"ButtonVariant", ["plain", "plain2", "default", "plain", "plain", "", "--"], "enum"⟩,
      ⟨"ButtonSize", ["plain", "2 x"], "enum"⟩] }
  implementation := {
    type := "functional", forwardRef := false, refs := [], context := [], imports := []
    hooks := [] }
  state := { localState := [], contextState := [], effects := [], derivedState := [] }
  provenance := ⟨"Button.tsx", ⟨2024, 1, 2, 3, 4, 5, 0, none⟩, ⟨[], []⟩, schemaVersion⟩

theorem storyNames_never_clash_sized :
    ∃ v, ofSchema .standard sized = .ok v ∧
      v.cases.map (·.storyName) = ["Plain", "Plain2", "VariantDefault", "VariantPlain",
        "VariantPlain2", "Value", "Variant", "SizePlain", "Value2X"] ∧
      (v.cases.map (·.storyName)).Nodup := by
  have found : (ofSchema .standard sized).toOption.map (fun v => v.cases.map (·.storyName)) =
      some ["Plain", "Plain2", "VariantDefault", "VariantPlain", "VariantPlain2", "Value",
        "Variant", "SizePlain", "Value2X"] := by decide +kernel
  cases h : ofSchema .standard sized with
  | error e => rw [h] at found; cases found
  | ok v =>
    rw [h] at found
    exact ⟨v, rfl, Option.some.inj found, (storyNames_never_clash h).2.2.1⟩

end PropForge.ComponentView
