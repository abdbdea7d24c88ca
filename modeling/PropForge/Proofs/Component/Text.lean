import PropForge.Proofs.Failure
import PropForge.Proofs.Template.Reads
import PropForge.Proofs.Template.Shape

/-!
# Names in the text of a component

A component for Next.js imports the hooks of the project, takes its props apart, calls the hooks and
declares its state. Each of these stands in its text with the names that the view gives:

* `eachTurn_map`: a loop gives one text for each item;
* `render_import`, `render_pattern`, `render_calls`, `render_state`: what its parts are in every
  component.
-/

namespace PropForge

open Template

/-- A prop in the destructuring pattern. -/
def PropSpec.patternLine (p : PropSpec) : String := "  " ++ Naming.destructured p.name ++ ",\n"

/-- The props of a section in the destructuring pattern. -/
def PropSection.patternText (s : PropSection) : String :=
  "  // " ++ s.title ++ "\n" ++ String.join (s.props.map PropSpec.patternLine)

/-- The call of a hook. -/
def HookCall.line (c : HookCall) : String := "  const " ++ c.result ++ " = " ++ c.name ++ "();\n"

/-- The declaration of a state variable. -/
def StateVariable.line (s : StateVariable) : String :=
  "  const [" ++ s.name ++ ", " ++ ComponentView.setterName s.name ++ "] = useState<" ++ s.type ++
    ">(" ++ s.defaultValue.getD "" ++ ");\n"

namespace ComponentView

variable (v : ComponentView)

/-- The line that imports the hooks of the project. -/
def importText : String :=
  if v.customHooks.isEmpty then ""
  else "import \x7b " ++ ", ".intercalate (v.customHooks.map (·.name)) ++
    " \x7d from \"../../helpers\";\n"

/-- The head of the component, which takes the props apart. -/
def patternText : String :=
  "export const " ++ v.name ++ " = forwardRef<HTMLDivElement, " ++ v.name ++ "Props>((\x7b\n" ++
    String.join (v.sections.map PropSection.patternText) ++ "  ...props\n" ++
    "\x7d, ref) => \x7b\n"

/-- The calls of the hooks of the project. -/
def callsText : String :=
  if v.customHooks.isEmpty then ""
  else "\n  // Custom hooks\n" ++ String.join (v.customHooks.map HookCall.line)

/-- The declarations of the state variables. -/
def stateText : String :=
  if v.state.isEmpty then ""
  else "\n  // State management\n" ++ String.join (v.state.map StateVariable.line)

end ComponentView

namespace Template

variable {insert : String → Scope → Except Template.Error String} {template target : String}
  {σ : Scope} {α : Type}

/-- **A loop** over items gives one text for each. -/
theorem eachTurn_map {body : Scope → Except Template.Error String} {expose : α → Value}
    {line : α → String} (h : ∀ a t, body ((target, expose a) :: ("loop", t) :: σ) = .ok (line a))
    (items : List α) (length index : Nat) :
    eachTurn body σ target length index (items.map expose) =
      .ok (String.join (items.map line)) := by
  induction items generalizing index with
  | nil => rfl
  | cons a items ih =>
    rw [List.map_cons, eachTurn, h, ih]
    exact congrArg Except.ok String.join_cons.symm

theorem renderPiece_each {items : Expr} {body : List Piece} {expose : α → Value}
    {line : α → String} {as : List α} (list : eval template σ items = .ok (.list (as.map expose)))
    (h : ∀ a t, renderPieces insert template body ((target, expose a) :: ("loop", t) :: σ) =
      .ok (line a)) :
    renderPiece insert template (Bundled.each target items body) σ =
      .ok (String.join (as.map line)) := by
  rw [Bundled.each, renderPiece, list]
  change (if (as.map expose).isEmpty then Except.ok "" else
    eachTurn _ σ target _ 0 (as.map expose)) = _
  rw [eachTurn_map h]
  cases as <;> rfl

/-- What is rendered only if a list has items. -/
theorem renderPiece_listed {items : Expr} {yes : List Piece} {expose : α → Value} {as : List α}
    {text : String} (list : eval template σ items = .ok (.list (as.map expose)))
    (h : renderPieces insert template yes σ = .ok text) :
    renderPiece insert template (.branch items yes []) σ =
      .ok (if as.isEmpty then "" else text) := by
  rw [renderPiece, list]
  cases as with
  | nil => rfl
  | cons a as => exact h

theorem renderPieces_nil : renderPieces insert template [] σ = .ok "" := rfl

theorem renderPieces_cons {piece : Piece} {rest : List Piece} {s t : String}
    (first : renderPiece insert template piece σ = .ok s)
    (h : renderPieces insert template rest σ = .ok t) :
    renderPieces insert template (piece :: rest) σ = .ok (s ++ t) := by
  rw [renderPieces, first, h]
  rfl

theorem renderPieces_text (s : String) {rest : List Piece} {t : String}
    (h : renderPieces insert template rest σ = .ok t) :
    renderPieces insert template (.text s :: rest) σ = .ok (s ++ t) :=
  renderPieces_cons rfl h

theorem renderPieces_output {e : Expr} {rest : List Piece} {s t : String}
    (value : eval template σ e = .ok (.text s))
    (h : renderPieces insert template rest σ = .ok t) :
    renderPieces insert template (.output e :: rest) σ = .ok (s ++ t) :=
  renderPieces_cons (by rw [renderPiece, value]; rfl) h

/-- The texts of a list, with a separator between each two. -/
theorem joined_texts (separator : String) (ss : List String) :
    joined separator (ss.map .text) = .ok (.text (separator.intercalate ss)) := by
  have printed : (ss.map Value.text).mapM (fun w : Value => do return (← w.required).print) =
      Except.ok (ε := Template.Error) ss := by
    induction ss with
    | nil => rfl
    | cons s ss ih =>
      rw [List.map_cons, List.mapM_cons, ih]
      rfl
  rw [joined, printed]
  rfl

/-- The text of two parts of a template is that of the first and then that of the second. -/
theorem exists_of_renderPieces_append {first rest : List Piece} {t : String}
    (h : renderPieces insert template (first ++ rest) σ = .ok t) :
    ∃ x y, renderPieces insert template first σ = .ok x ∧
      renderPieces insert template rest σ = .ok y ∧ t = x ++ y := by
  rw [renderPieces_append] at h
  obtain ⟨x, front, h⟩ := exists_of_bind_eq_ok h
  cases back : renderPieces insert template rest σ with
  | error e =>
    rw [back] at h
    cases h
  | ok y =>
    rw [back] at h
    cases h
    exact ⟨x, y, front, rfl, rfl⟩

end Template

namespace ComponentView

variable {v : ComponentView} {insert : String → Scope → Except Template.Error String}
  {template : String} {σ : Scope}

/-- What an expression reads of the view. -/
theorem eval_view {field : String} {value : Value} (ctx : lookup σ "ctx" = v.exposed)
    (h : v.exposed.field field = value) :
    eval template σ (Bundled.view field) = .ok value := by
  rw [Bundled.view, eval, eval, ctx, ← h]
  rfl

/-- The names of the hooks, with commas between them. -/
theorem eval_hookNames (ctx : lookup σ "ctx" = v.exposed) :
    eval template σ (Bundled.joined ", " (Bundled.picked "name" (Bundled.view "custom_hooks"))) =
      .ok (.text (", ".intercalate (v.customHooks.map (·.name)))) := by
  have list : eval template σ (Bundled.view "custom_hooks") =
      .ok (.list (v.customHooks.map HookCall.exposed)) := eval_view ctx rfl
  have names : eval template σ (Bundled.picked "name" (Bundled.view "custom_hooks")) =
      .ok (.list (v.customHooks.map fun c => .text c.name)) := by
    rw [Bundled.picked, eval, list]
    change Except.ok (Value.list ((v.customHooks.map HookCall.exposed).map (fieldPath "name"))) = _
    rw [List.map_map]
    rfl
  have texts : (v.customHooks.map fun c => Value.text c.name) =
      (v.customHooks.map (·.name)).map .text := by
    rw [List.map_map]
    rfl
  rw [Bundled.joined, eval, names]
  change joined ", " (v.customHooks.map fun c => Value.text c.name) = _
  rw [texts, joined_texts]

theorem render_import (ctx : lookup σ "ctx" = v.exposed) :
    renderPiece insert template (.branch (Bundled.view "custom_hooks") [
          .text "import \x7b ",
          .output (Bundled.joined ", " (Bundled.picked "name" (Bundled.view "custom_hooks"))),
          .text " \x7d from \"../../helpers\";\n"] []) σ = .ok v.importText := by
  refine renderPiece_listed (eval_view ctx rfl) ?_
  simp only [renderPieces, renderPiece, eval_hookNames ctx, Value.required, Value.print, bind,
    Except.bind, pure, Except.pure, String.append_empty, String.append_assoc]

theorem render_section (s : PropSection) (t : Value) :
    renderPieces insert template [
        .text "  // ",
        .output (Bundled.part "section" "title"),
        .text "\n",
        Bundled.each "prop" (Bundled.part "section" "props") [
          .text "  ",
          .output (Bundled.via "destructure" (Bundled.part "prop" "name")),
          .text ",\n"]] (("section", s.exposed) :: ("loop", t) :: σ) = .ok s.patternText := by
  have line (p : PropSpec) (turn : Value) : renderPieces insert template [
        .text "  ",
        .output (Bundled.via "destructure" (Bundled.part "prop" "name")),
        .text ",\n"] (("prop", p.exposed) :: ("loop", turn) :: ("section", s.exposed) ::
          ("loop", t) :: σ) = .ok p.patternLine := by
    rw [PropSpec.patternLine, String.append_assoc]
    rfl
  have title : eval template (("section", s.exposed) :: ("loop", t) :: σ)
      (Bundled.part "section" "title") = .ok (.text s.title) := rfl
  have props : eval template (("section", s.exposed) :: ("loop", t) :: σ)
      (Bundled.part "section" "props") = .ok (.list (s.props.map PropSpec.exposed)) := rfl
  simp only [renderPieces, renderPiece, title, renderPiece_each props line, Value.required,
    Value.print, bind, Except.bind, pure, Except.pure, PropSection.patternText,
    String.append_empty, String.append_assoc]

theorem render_pattern (ctx : lookup σ "ctx" = v.exposed) :
    renderPieces insert template [
        .text "export const ",
        .output (Bundled.view "component_name"),
        .text " = forwardRef<HTMLDivElement, ",
        .output (Bundled.view "component_name"),
        .text "Props>((\x7b\n",
        Bundled.each "section" (Bundled.view "prop_sections") [
          .text "  // ",
          .output (Bundled.part "section" "title"),
          .text "\n",
          Bundled.each "prop" (Bundled.part "section" "props") [
            .text "  ",
            .output (Bundled.via "destructure" (Bundled.part "prop" "name")),
            .text ",\n"]],
        .text "  ...props\n",
        .text "\x7d, ref) => \x7b\n"] σ = .ok v.patternText := by
  have name : eval template σ (Bundled.view "component_name") = .ok (.text v.name) :=
    eval_view ctx rfl
  have sections : eval template σ (Bundled.view "prop_sections") =
      .ok (.list (v.sections.map PropSection.exposed)) := eval_view ctx rfl
  have each : renderPiece insert template (Bundled.each "section" (Bundled.view "prop_sections") [
          .text "  // ",
          .output (Bundled.part "section" "title"),
          .text "\n",
          Bundled.each "prop" (Bundled.part "section" "props") [
            .text "  ",
            .output (Bundled.via "destructure" (Bundled.part "prop" "name")),
            .text ",\n"]]) σ = .ok (String.join (v.sections.map PropSection.patternText)) :=
    renderPiece_each sections fun s t => render_section s t
  have text := renderPieces_text "export const " (renderPieces_output name
    (renderPieces_text " = forwardRef<HTMLDivElement, " (renderPieces_output name
      (renderPieces_text "Props>((\x7b\n" (renderPieces_cons each
        (renderPieces_text "  ...props\n" (renderPieces_text "\x7d, ref) => \x7b\n"
          renderPieces_nil)))))))
  refine text.trans (congrArg Except.ok ?_)
  unfold patternText
  simp only [String.append_empty, String.append_assoc]

theorem render_calls (ctx : lookup σ "ctx" = v.exposed) :
    renderPiece insert template (.branch (Bundled.view "custom_hooks") [
          .text "\n",
          .text "  // Custom hooks\n",
          Bundled.each "hook" (Bundled.view "custom_hooks") [
            .text "  const ",
            .output (Bundled.part "hook" "result"),
            .text " = ",
            .output (Bundled.part "hook" "name"),
            .text "();\n"]] []) σ = .ok v.callsText := by
  have hooks : eval template σ (Bundled.view "custom_hooks") =
      .ok (.list (v.customHooks.map HookCall.exposed)) := eval_view ctx rfl
  have line (c : HookCall) (turn : Value) : renderPieces insert template [
        .text "  const ",
        .output (Bundled.part "hook" "result"),
        .text " = ",
        .output (Bundled.part "hook" "name"),
        .text "();\n"] (("hook", c.exposed) :: ("loop", turn) :: σ) = .ok c.line := by
    simp only [HookCall.line, String.append_assoc]
    rfl
  refine renderPiece_listed hooks ?_
  simp only [renderPieces, renderPiece, renderPiece_each hooks line, bind, Except.bind, pure,
    Except.pure, String.append_empty]
  rfl

/-- Without a default, or with an empty one, nothing stands between the parentheses. -/
theorem render_default (s : StateVariable) (item : lookup σ "item" = s.exposed) :
    renderPiece insert template
      (.output (.either (Bundled.part "item" "default_value") (.text ""))) σ =
        .ok (s.defaultValue.getD "") := by
  have value : eval template σ (Bundled.part "item" "default_value") =
      .ok (.ofOption s.defaultValue) := by
    rw [Bundled.part, eval, eval, item]
    rfl
  simp only [renderPiece, eval, value]
  cases s.defaultValue with
  | none => rfl
  | some t =>
    by_cases empty : t = ""
    · subst empty
      rfl
    · simp [Value.ofOption, Value.truthy, Value.required, Value.print, empty, bind, Except.bind,
        pure, Except.pure]

theorem render_state (ctx : lookup σ "ctx" = v.exposed) :
    renderPiece insert template (.branch (Bundled.view "state") [
          .text "\n",
          .text "  // State management\n",
          Bundled.each "item" (Bundled.view "state") [
            .text "  const [",
            .output (Bundled.part "item" "name"),
            .text ", set",
            .output (Bundled.via "upper_first" (Bundled.part "item" "name")),
            .text "] = useState<",
            .output (Bundled.part "item" "type"),
            .text ">(",
            .output (.either (Bundled.part "item" "default_value") (.text "")),
            .text ");\n"]] []) σ = .ok v.stateText := by
  have state : eval template σ (Bundled.view "state") =
      .ok (.list (v.state.map StateVariable.exposed)) := eval_view ctx rfl
  have line (s : StateVariable) (turn : Value) : renderPieces insert template [
        .text "  const [",
        .output (Bundled.part "item" "name"),
        .text ", set",
        .output (Bundled.via "upper_first" (Bundled.part "item" "name")),
        .text "] = useState<",
        .output (Bundled.part "item" "type"),
        .text ">(",
        .output (.either (Bundled.part "item" "default_value") (.text "")),
        .text ");\n"] (("item", s.exposed) :: ("loop", turn) :: σ) = .ok s.line := by
    have name : eval template (("item", s.exposed) :: ("loop", turn) :: σ)
        (Bundled.part "item" "name") = .ok (.text s.name) := rfl
    have setter : eval template (("item", s.exposed) :: ("loop", turn) :: σ)
        (Bundled.via "upper_first" (Bundled.part "item" "name")) =
          .ok (.text (Text.upperFirst s.name)) := rfl
    have type : eval template (("item", s.exposed) :: ("loop", turn) :: σ)
        (Bundled.part "item" "type") = .ok (.text s.type) := rfl
    have default : renderPiece insert template
        (.output (.either (Bundled.part "item" "default_value") (.text "")))
        (("item", s.exposed) :: ("loop", turn) :: σ) = .ok (s.defaultValue.getD "") :=
      render_default s rfl
    have set : ", set" = ", " ++ "set" := by decide
    refine (renderPieces_text _ (renderPieces_output name (renderPieces_text _
      (renderPieces_output setter (renderPieces_text _ (renderPieces_output type
        (renderPieces_text _ (renderPieces_cons default (renderPieces_text _
          renderPieces_nil))))))))).trans (congrArg Except.ok ?_)
    unfold StateVariable.line setterName
    simp only [set, String.append_empty, String.append_assoc]
  refine renderPiece_listed state ?_
  simp only [renderPieces, renderPiece, renderPiece_each state line, bind, Except.bind, pure,
    Except.pure, String.append_empty]
  rfl

end ComponentView

end PropForge
