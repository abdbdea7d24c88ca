import PropForge.Proofs.Component.Body
import PropForge.Proofs.Component.Stories

/-!
# The file of stories

The stories of a component are in a file of their own, which imports the component under its name and
exports a constant for each story. The stories are named apart from each other, but nothing keeps them
apart from the component:

* `render_stories`: the whole text of the file;
* `storyName_eq_iff`: which name a case has;
* `stories_redeclare_iff`: when a story has the name of the component.
-/

namespace PropForge

open Template

/-- The entry of a prop among the controls. -/
def PropSpec.controlText (p : PropSpec) : String :=
  let description := p.description.getD ""
  "    " ++ Naming.propKey p.name ++ ": \x7b\n" ++ "      control: \x7b type: \"" ++
    controlType p.type ++ "\" \x7d,\n" ++
    (if description = "" then "" else "      description: \"" ++ literalText description ++ "\",\n") ++
    "    \x7d,\n"

/-- What the story of a value shows. -/
def VariantCase.argsText (component : String) (c : VariantCase) : String :=
  "  args: \x7b\n" ++ "    children: \"" ++ literalText (Text.upperFirst c.value) ++ " " ++ component ++
    "\",\n" ++ "    " ++ Naming.propKey c.propName ++ ": \"" ++ literalText c.value ++ "\",\n" ++
    "  \x7d,\n" ++ "\x7d;\n"

/-- The story of a value. -/
def VariantCase.text (component : String) (c : VariantCase) : String :=
  "\n" ++ "export const " ++ c.storyName ++ ": Story = \x7b\n" ++ c.argsText component

namespace ComponentView

variable (v : ComponentView)

/-- The import of the component, and what is said of it and its props. -/
def metaText : String :=
  "import type \x7b Meta, StoryObj \x7d from \"@storybook/react\";\n" ++
    "import \x7b " ++ v.name ++ " \x7d from \"./" ++ v.nameLower ++ "\";\n" ++
    "\n" ++ "const meta: Meta<typeof " ++ v.name ++ "> = \x7b\n" ++
    "  title: \"PatternFly/" ++ v.name ++ "\",\n" ++ "  component: " ++ v.name ++ ",\n" ++
    "  parameters: \x7b\n" ++ "    layout: \"centered\",\n" ++ "  \x7d,\n" ++
    "  tags: [\"autodocs\"],\n" ++ "  argTypes: \x7b\n" ++
    String.join (v.props.map PropSpec.controlText) ++ "  \x7d,\n" ++ "\x7d;\n" ++
    "\n" ++ "export default meta;\n" ++ "type Story = StoryObj<typeof meta>;\n"

/-- The story that is always there. -/
def defaultText : String :=
  "\n" ++ "export const Default: Story = \x7b\n" ++ "  args: \x7b\n" ++ "    children: \"Default " ++
    v.name ++ "\",\n" ++ "  \x7d,\n" ++ "\x7d;\n"

/-- The file of stories. -/
def storiesText : String :=
  v.metaText ++ v.defaultText ++ String.join (v.cases.map (VariantCase.text v.name))

/-- The constants of the stories, in the order of their exports. -/
def storyConstants : List String := "Default" :: v.cases.map (·.storyName)

end ComponentView

namespace Template

variable {insert : String → Scope → Except Template.Error String} {template : String} {σ : Scope}

/-- What is rendered only of a text that is given and not empty. -/
theorem renderPiece_given {test : Expr} {yes : List Piece} {o : Option String}
    {line : String → String} (value : eval template σ test = .ok (.ofOption o))
    (h : ∀ text, o = some text → renderPieces insert template yes σ = .ok (line text)) :
    renderPiece insert template (.branch test yes []) σ =
      .ok (if o.getD "" = "" then "" else line (o.getD "")) := by
  rw [renderPiece, value]
  cases o with
  | none => rfl
  | some text =>
    by_cases empty : text = ""
    · subst empty
      rfl
    · have full : (Value.ofOption (some text)).truthy = .ok true := by
        simp [Value.ofOption, Value.truthy, empty]
      rw [Option.getD_some, if_neg empty, ← h text rfl]
      change (Value.truthy (Value.ofOption (some text)) >>= fun b =>
        if b = true then renderPieces insert template yes σ
        else renderPieces insert template [] σ) = _
      rw [full]
      rfl

end Template

namespace ComponentView

section Text

variable {v : ComponentView} {insert : String → Scope → Except Template.Error String}
  {template : String} {σ : Scope}

theorem render_control (p : PropSpec) (turn : Value) :
    renderPieces insert template [
      .text "    ",
      .output (Bundled.via "prop_key" (Bundled.part "prop" "name")),
      .text ": \x7b\n",
      .text "      control: \x7b type: \"",
      .output (Bundled.via "control_type" (Bundled.part "prop" "type")),
      .text "\" \x7d,\n",
      .branch (Bundled.part "prop" "description") [
          .text "      description: \"",
          .output (Bundled.via "js_string" (Bundled.part "prop" "description")),
          .text "\",\n"] [],
      .text "    \x7d,\n"] (("prop", p.exposed) :: ("loop", turn) :: σ) = .ok p.controlText := by
  have key : eval template (("prop", p.exposed) :: ("loop", turn) :: σ)
      (Bundled.via "prop_key" (Bundled.part "prop" "name")) =
        .ok (.text (Naming.propKey p.name)) := rfl
  have control : eval template (("prop", p.exposed) :: ("loop", turn) :: σ)
      (Bundled.via "control_type" (Bundled.part "prop" "type")) =
        .ok (.text (controlType p.type)) := rfl
  have value : eval template (("prop", p.exposed) :: ("loop", turn) :: σ)
      (Bundled.part "prop" "description") = .ok (.ofOption p.description) := rfl
  have described (text : String) (given : p.description = some text) :
      renderPieces insert template [
        .text "      description: \"",
        .output (Bundled.via "js_string" (Bundled.part "prop" "description")),
        .text "\",\n"] (("prop", p.exposed) :: ("loop", turn) :: σ) =
          .ok ("      description: \"" ++ (literalText text ++ ("\",\n" ++ ""))) := by
    have description : eval template (("prop", p.exposed) :: ("loop", turn) :: σ)
        (Bundled.via "js_string" (Bundled.part "prop" "description")) =
          .ok (.text (literalText text)) := by
      rw [Bundled.via, eval, value, given]
      rfl
    exact renderPieces_text _ (renderPieces_output description (renderPieces_text _
      renderPieces_nil))
  refine (renderPieces_text _ (renderPieces_output key (renderPieces_text _ (renderPieces_text _
    (renderPieces_output control (renderPieces_text _ (renderPieces_cons
      (renderPiece_given value described) (renderPieces_text _ renderPieces_nil)))))))).trans ?_
  unfold PropSpec.controlText
  simp only [String.append_empty, String.append_assoc]

theorem render_case (ctx : lookup σ "ctx" = v.exposed) (c : VariantCase) (turn : Value) :
    renderPieces insert template [
      .text "\n",
      .text "export const ",
      .output (Bundled.part "case" "story_name"),
      .text ": Story = \x7b\n",
      .text "  args: \x7b\n",
      .text "    children: \"",
      .output (Bundled.via "js_string" (Bundled.via "upper_first" (Bundled.part "case" "value"))),
      .text " ",
      .output (Bundled.view "component_name"),
      .text "\",\n",
      .text "    ",
      .output (Bundled.via "prop_key" (Bundled.part "case" "prop_name")),
      .text ": \"",
      .output (Bundled.via "js_string" (Bundled.part "case" "value")),
      .text "\",\n",
      .text "  \x7d,\n",
      .text "\x7d;\n"] (("case", c.exposed) :: ("loop", turn) :: σ) = .ok (c.text v.name) := by
  have name : eval template (("case", c.exposed) :: ("loop", turn) :: σ)
      (Bundled.view "component_name") = .ok (.text v.name) := eval_view ctx rfl
  have story : eval template (("case", c.exposed) :: ("loop", turn) :: σ)
      (Bundled.part "case" "story_name") = .ok (.text c.storyName) := rfl
  have title : eval template (("case", c.exposed) :: ("loop", turn) :: σ)
      (Bundled.via "js_string" (Bundled.via "upper_first" (Bundled.part "case" "value"))) =
        .ok (.text (literalText (Text.upperFirst c.value))) := rfl
  have key : eval template (("case", c.exposed) :: ("loop", turn) :: σ)
      (Bundled.via "prop_key" (Bundled.part "case" "prop_name")) =
        .ok (.text (Naming.propKey c.propName)) := rfl
  have value : eval template (("case", c.exposed) :: ("loop", turn) :: σ)
      (Bundled.via "js_string" (Bundled.part "case" "value")) =
        .ok (.text (literalText c.value)) := rfl
  refine (renderPieces_text _ (renderPieces_text _ (renderPieces_output story (renderPieces_text _
    (renderPieces_text _ (renderPieces_text _ (renderPieces_output title (renderPieces_text _
      (renderPieces_output name (renderPieces_text _ (renderPieces_text _
        (renderPieces_output key (renderPieces_text _ (renderPieces_output value
          (renderPieces_text _ (renderPieces_text _ (renderPieces_text _
            renderPieces_nil))))))))))))))))).trans ?_
  unfold VariantCase.text VariantCase.argsText
  simp only [String.append_empty, String.append_assoc]

theorem render_meta (ctx : lookup σ "ctx" = v.exposed) :
    renderPieces insert template (Bundled.stories.take 27) σ = .ok v.metaText := by
  have name : eval template σ (Bundled.view "component_name") = .ok (.text v.name) :=
    eval_view ctx rfl
  have lower : eval template σ (Bundled.view "component_name_lower") = .ok (.text v.nameLower) :=
    eval_view ctx rfl
  have props : eval template σ (Bundled.view "props") =
      .ok (.list (v.props.map PropSpec.exposed)) := eval_view ctx rfl
  refine (renderPieces_text _ (renderPieces_text _ (renderPieces_output name (renderPieces_text _
    (renderPieces_output lower (renderPieces_text _ (renderPieces_text _ (renderPieces_text _
      (renderPieces_output name (renderPieces_text _ (renderPieces_text _
        (renderPieces_output name (renderPieces_text _ (renderPieces_text _
          (renderPieces_output name (renderPieces_text _ (renderPieces_text _ (renderPieces_text _
            (renderPieces_text _ (renderPieces_text _ (renderPieces_text _ (renderPieces_cons
              (renderPiece_each props render_control) (renderPieces_text _ (renderPieces_text _
                (renderPieces_text _ (renderPieces_text _ (renderPieces_text _
                  renderPieces_nil))))))))))))))))))))))))))).trans ?_
  unfold metaText
  simp only [String.append_empty, String.append_assoc]

theorem render_defaultStory (ctx : lookup σ "ctx" = v.exposed) :
    renderPieces insert template ((Bundled.stories.drop 27).take 8) σ = .ok v.defaultText := by
  have name : eval template σ (Bundled.view "component_name") = .ok (.text v.name) :=
    eval_view ctx rfl
  refine (renderPieces_text _ (renderPieces_text _ (renderPieces_text _ (renderPieces_text _
    (renderPieces_output name (renderPieces_text _ (renderPieces_text _ (renderPieces_text _
      renderPieces_nil)))))))).trans ?_
  unfold defaultText
  simp only [String.append_empty, String.append_assoc]

/-- **The file of stories** imports the component and exports the story that is always there, and then
one for each case. -/
theorem render_stories (v : ComponentView) (framework : Framework) :
    Generator.render ⟨framework, v⟩ (Template.library none) .stories = .ok v.storiesText := by
  have whole : Generator.render ⟨framework, v⟩ (Template.library none) .stories =
      renderPieces (Template.render (Template.library none) 199) "shared/stories.tsx.j2"
        Bundled.stories (Generator.scope ⟨framework, v⟩) := Generator.render_eq_renderPieces rfl rfl
  have cases : eval "shared/stories.tsx.j2" (Generator.scope ⟨framework, v⟩)
      (Bundled.view "variant_cases") = .ok (.list (v.cases.map VariantCase.exposed)) :=
    eval_view rfl rfl
  have split : Bundled.stories = Bundled.stories.take 27 ++
      ((Bundled.stories.drop 27).take 8 ++ Bundled.stories.drop 35) := rfl
  rw [whole, split, renderPieces_append, renderPieces_append, render_meta rfl, render_defaultStory rfl]
  have each : renderPieces (Template.render (Template.library none) 199) "shared/stories.tsx.j2"
      (Bundled.stories.drop 35) (Generator.scope ⟨framework, v⟩) =
        .ok (String.join (v.cases.map (VariantCase.text v.name)) ++ "") :=
    renderPieces_cons (renderPiece_each cases (render_case rfl)) renderPieces_nil
  rw [each, String.append_empty, storiesText, String.append_assoc]
  rfl

/-- Each constant is exported by a line of the file. -/
theorem export_of_mem_storyConstants (v : ComponentView) {name : String} (mem : name ∈ v.storyConstants) :
    ∃ before after,
      v.storiesText = before ++ "export const " ++ name ++ ": Story = \x7b\n" ++ after := by
  rcases List.mem_cons.mp mem with rfl | mem
  · refine ⟨v.metaText ++ "\n", "  args: \x7b\n" ++ "    children: \"Default " ++ v.name ++ "\",\n" ++
      "  \x7d,\n" ++ "\x7d;\n" ++ String.join (v.cases.map (VariantCase.text v.name)), ?_⟩
    have line : "export const Default: Story = \x7b\n" =
        "export const " ++ ("Default" ++ ": Story = \x7b\n") := by decide
    unfold storiesText defaultText
    rw [line]
    simp only [String.append_assoc]
  · obtain ⟨c, hc, rfl⟩ := List.mem_map.mp mem
    obtain ⟨front, back, split⟩ := List.append_of_mem hc
    refine ⟨v.metaText ++ v.defaultText ++ String.join (front.map (VariantCase.text v.name)) ++ "\n",
      c.argsText v.name ++ String.join (back.map (VariantCase.text v.name)), ?_⟩
    rw [storiesText, split, List.map_append, List.map_cons, String.join_append, String.join_cons,
      VariantCase.text]
    simp only [String.append_assoc]

end Text

section Names

/-- One of some cases has its own name taken and has this one by prop and value, perhaps with a
number. -/
def FallsBackTo (used : List String) (cases : List VariantCase) (name : String) : Prop :=
  ∃ before c after, cases = before ++ c :: after ∧
    let taken := used ++ before.map (·.storyName)
    let base := Naming.pascalCase (c.propName ++ " " ++ c.value)
    Naming.pascalCase c.value ∈ taken ∧ name ∉ taken ∧
      ∃ n, name = numbered base n ∧ ∀ m < n, numbered base m ∈ taken

variable {used : List String} {values : List (String × String)} {before after : List VariantCase}
  {c : VariantCase} {name : String}

/-- **The name of a case** is the first form of its base that is not taken, and no other. -/
theorem storyName_eq_iff (split : casesFrom used values = before ++ c :: after) :
    let taken := used ++ before.map (·.storyName)
    c.storyName = name ↔ name ∉ taken ∧
      ∃ n, name = numbered (storyBase taken c.propName c.value) n ∧
        ∀ m < n, numbered (storyBase taken c.propName c.value) m ∈ taken := by
  intro taken
  obtain ⟨k, -, chosen, free, least⟩ := storyName_of_before split
  constructor
  · rintro rfl
    exact ⟨free, k, chosen, least⟩
  · rintro ⟨untaken, n, rfl, all⟩
    rw [chosen] at free ⊢
    rcases Nat.lt_trichotomy k n with lt | eq | gt
    · exact absurd (all k lt) free
    · rw [eq]
    · exact absurd (least n gt) untaken

/-- A case that can have the name of its value has it. -/
theorem storyName_eq_pascalCase (split : casesFrom used values = before ++ c :: after)
    (free : Naming.pascalCase c.value ∉ used ++ before.map (·.storyName)) :
    c.storyName = Naming.pascalCase c.value := by
  have base : storyBase (used ++ before.map (·.storyName)) c.propName c.value =
      Naming.pascalCase c.value := if_neg free
  refine (storyName_eq_iff split).mpr ⟨free, 0, base.symm, ?_⟩
  intro m hm
  cases hm

/-- **Some case has a name** if and only if this is not used before, and a value asks for it or falls
back to it because what it asks for is taken. -/
theorem exists_storyName_iff : (∃ c ∈ casesFrom used values, c.storyName = name) ↔
    name ∉ used ∧ ((∃ c ∈ casesFrom used values, Naming.pascalCase c.value = name) ∨
      FallsBackTo used (casesFrom used values) name) := by
  constructor
  · rintro ⟨c, hc, rfl⟩
    refine ⟨casesFrom_fresh.apart _ (List.mem_map_of_mem hc), ?_⟩
    obtain ⟨before, after, split⟩ := List.append_of_mem hc
    by_cases blocked : Naming.pascalCase c.value ∈ used ++ before.map (·.storyName)
    · have base : storyBase (used ++ before.map (·.storyName)) c.propName c.value =
          Naming.pascalCase (c.propName ++ " " ++ c.value) := if_pos blocked
      obtain ⟨untaken, n, chosen, all⟩ := (storyName_eq_iff split).mp rfl
      rw [base] at chosen all
      exact .inr ⟨before, c, after, split, blocked, untaken, n, chosen, all⟩
    · exact .inl ⟨c, hc, (storyName_eq_pascalCase split blocked).symm⟩
  · rintro ⟨unused, ⟨c, hc, rfl⟩ | ⟨before, c, after, split, blocked, untaken, n, chosen, all⟩⟩
    · obtain ⟨before, after, split⟩ := List.append_of_mem hc
      by_cases earlier : Naming.pascalCase c.value ∈ before.map (·.storyName)
      · obtain ⟨d, hd, same⟩ := List.mem_map.mp earlier
        exact ⟨d, by simp [split, hd], same⟩
      · have free : Naming.pascalCase c.value ∉ used ++ before.map (·.storyName) := by
          rw [List.mem_append, not_or]
          exact ⟨unused, earlier⟩
        exact ⟨c, hc, storyName_eq_pascalCase split free⟩
    · have base : storyBase (used ++ before.map (·.storyName)) c.propName c.value =
          Naming.pascalCase (c.propName ++ " " ++ c.value) := if_pos blocked
      refine ⟨c, by simp [split], (storyName_eq_iff split).mpr ⟨untaken, n, ?_⟩⟩
      rw [base]
      exact ⟨chosen, all⟩

end Names

variable {tables : Classification} {schema : Schema} {v : ComponentView}

/-- A value of a variant asks for a name. -/
def AsksFor (schema : Schema) (name : String) : Prop :=
  ∃ w ∈ schema.contract.variants, ∃ value ∈ w.values, Naming.pascalCase value = name

/-- The cases have the values of the variants, in their order. -/
theorem values_of_ofSchema (h : ofSchema tables schema = .ok v) :
    v.cases.map (·.value) = schema.contract.variants.flatMap (·.values) := by
  have pairs : v.cases.map (fun c => (c.propName, c.value)) = variantValues v.bindings := by
    rw [(shows_of_ofSchema h).cases, casesOf, map_value_casesFrom]
  rw [← variants_of_ofSchema h, List.flatMap_map]
  have second := congrArg (List.map Prod.snd) pairs
  simpa [variantValues, List.map_flatMap, Function.comp_def] using second

theorem asksFor_iff (h : ofSchema tables schema = .ok v) {name : String} :
    AsksFor schema name ↔ ∃ c ∈ v.cases, Naming.pascalCase c.value = name := by
  have mem (value : String) : (∃ w ∈ schema.contract.variants, value ∈ w.values) ↔
      ∃ c ∈ v.cases, c.value = value := by
    rw [← List.mem_flatMap, ← values_of_ofSchema h, List.mem_map]
  constructor
  · rintro ⟨w, hw, value, hv, named⟩
    obtain ⟨c, hc, rfl⟩ := (mem value).mp ⟨w, hw, hv⟩
    exact ⟨c, hc, named⟩
  · rintro ⟨c, hc, named⟩
    obtain ⟨w, hw, hv⟩ := (mem c.value).mpr ⟨c, hc, rfl⟩
    exact ⟨w, hw, c.value, hv, named⟩

/-- **The stories and the component.** For every framework there is one file of stories, which imports
the component under its name and exports the constants of the stories. Some case has the name of the
component if and only if this is not that of the story that is always there, and a value asks for it,
or falls back to it because what it asks for is taken. So a constant redeclares the component if and
only if one of the two is so, or the component is called like the story that is always there. -/
theorem stories_redeclare_iff (h : ofSchema tables schema = .ok v) :
    let component := schema.contract.componentName
    v.name = component ∧
    (∀ framework, Generator.render ⟨framework, v⟩ (Template.library none) .stories =
      .ok v.storiesText) ∧
    (∀ name ∈ v.storyConstants, ∃ before after,
      v.storiesText = before ++ "export const " ++ name ++ ": Story = \x7b\n" ++ after) ∧
    ((∃ c ∈ v.cases, c.storyName = component) ↔
      component ≠ "Default" ∧
        (AsksFor schema component ∨ FallsBackTo ["Default"] v.cases component)) ∧
    (component ∈ v.storyConstants ↔
      component = "Default" ∨ AsksFor schema component ∨
        FallsBackTo ["Default"] v.cases component) := by
  intro component
  have named : v.cases = casesFrom ["Default"] (variantValues v.bindings) :=
    (shows_of_ofSchema h).cases
  have story : (∃ c ∈ v.cases, c.storyName = component) ↔
      component ≠ "Default" ∧
        (AsksFor schema component ∨ FallsBackTo ["Default"] v.cases component) := by
    rw [asksFor_iff h, named, exists_storyName_iff, List.mem_singleton]
  have exports (name : String) (mem : name ∈ v.storyConstants) := v.export_of_mem_storyConstants mem
  refine ⟨name_of_ofSchema h, render_stories v, exports, story, ?_⟩
  rw [storyConstants, List.mem_cons, List.mem_map, story]
  by_cases default : component = "Default"
  · simp only [default, true_or]
  · simp only [default, ne_eq, not_false_eq_true, true_and, false_or]

/-- A component with a value that is called like it. -/
def selfTitled : Schema where
  contract := {
    componentName := "Button"
    props := [⟨"variant", "ButtonVariant", false, "styling", none⟩]
    events := [], slots := [], accessibility := [], description := none
    variants := [⟨"ButtonVariant", ["button", "link"], "enum"⟩] }
  implementation := {
    type := "functional", forwardRef := false, refs := [], context := [], imports := []
    hooks := [] }
  state := { localState := [], contextState := [], effects := [], derivedState := [] }
  provenance := ⟨"Button.tsx", ⟨2024, 1, 2, 3, 4, 5, 0, none⟩, ⟨[], []⟩, schemaVersion⟩

theorem stories_redeclare_iff_selfTitled :
    ∃ v, ofSchema .standard selfTitled = .ok v ∧ v.storyConstants = ["Default", "Button", "Link"] ∧
      "Button" ∈ v.storyConstants ∧ ∃ c ∈ v.cases, c.storyName = "Button" := by
  have found : (ofSchema .standard selfTitled).map storyConstants =
      .ok ["Default", "Button", "Link"] := by decide +kernel
  have asked : AsksFor selfTitled "Button" :=
    ⟨_, List.mem_cons_self, "button", List.mem_cons_self, by decide +kernel⟩
  obtain ⟨v, h, constants⟩ := exists_of_map_eq_ok found
  obtain ⟨-, -, -, story, constant⟩ := stories_redeclare_iff h
  exact ⟨v, h, constants, constant.mpr (.inr (.inl asked)), story.mpr ⟨by decide, .inl asked⟩⟩

end ComponentView

end PropForge
