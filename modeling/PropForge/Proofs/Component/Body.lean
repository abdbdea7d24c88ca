import PropForge.Proofs.Component.Tables

/-!
# The text of a component

A component for Next.js consists of its imports, its head, the call of the hook that the template
brings along, the calls of other hooks, its state, its effects, its style classes and its markup.
Each part is made of what the view holds for it:

* `renderPiece_eachWhere`: a loop with a test gives one text for each item that passes;
* `render_parts`: the parts follow each other in every component.
-/

namespace PropForge

open Template

/-- The style class that a prop selects for a variant. -/
def VariantBinding.line (b : VariantBinding) : String :=
  "    " ++ b.local ++ " && styles.modifiers[" ++ b.local ++ "],\n"

/-- An effect, with all that it depends on. -/
def EffectUse.text (e : EffectUse) : String :=
  "  useEffect(() => \x7b\n" ++ "    // " ++ e.name ++ " logic\n" ++ "  \x7d, [" ++
    ", ".intercalate e.dependencies ++ "]);\n"

namespace ComponentView

variable (v : ComponentView)

/-- The call of the hook that the template brings along. -/
def ouiaText : String :=
  if v.patterns.ouia.isEmpty then ""
  else "\n" ++ "  // OUIA props for accessibility\n" ++ "  const ouiaProps = useOUIAProps(\"" ++
    v.name ++ "\", " ++ v.ouiaArguments.1 ++ ", " ++ v.ouiaArguments.2 ++ ");\n"

/-- The effects. -/
def effectsText : String :=
  if v.effects.isEmpty then ""
  else "\n" ++ "  // Effects\n" ++ String.join (v.effects.map EffectUse.text)

/-- The style classes: that of the component, those of variants and of boolean props, and those that
are passed in. -/
def classesText : String :=
  "\n" ++ "  // CSS classes\n" ++ "  const cssClasses = css(\n" ++ "    styles." ++ v.stylesKey ++
    ",\n" ++ String.join ((v.bindings.filter (·.matched)).map VariantBinding.line) ++
    Modifier.lines v.modifiers ++ (if v.hasClassName then "    className\n" else "") ++ "  );\n"

/-- The markup, and the name by which the component is known. -/
def markupText : String :=
  "\n" ++ "  return (\n" ++ "    <div\n" ++ "      ref=\x7bref\x7d\n" ++
    "      className=\x7bcssClasses\x7d\n" ++
    (if v.patterns.ouia.isEmpty then "" else "      \x7b...ouiaProps\x7d\n") ++
    "      \x7b...props\x7d\n" ++
    (if v.hasChildren then "    >\n" ++ "      \x7bchildren\x7d\n" ++ "    </div>\n"
      else "    />\n") ++
    "  );\n" ++ "\x7d);\n" ++ "\n" ++ v.name ++ ".displayName = \"" ++ v.name ++ "\";\n"

end ComponentView

namespace Template

variable {insert : String → Scope → Except Template.Error String} {template target : String}
  {σ : Scope} {α : Type}

/-- The items that pass a test. -/
theorem selected_map {test : Expr} {expose : α → Value} {passes : α → Bool}
    (h : ∀ a, eval template ((target, expose a) :: σ) test = .ok (.flag (passes a)))
    (as : List α) : selected template σ target (some test) (as.map expose) =
      .ok ((as.filter passes).map expose) := by
  let pass (v : Value) : Except Template.Error Bool := do
    (← eval template ((target, v) :: σ) test).truthy
  have one (a : α) : pass (expose a) = .ok (passes a) := by
    change (eval template ((target, expose a) :: σ) test >>= Value.truthy) = _
    rw [h]
    rfl
  -- what has passed is gathered with the latest in front
  have walk (acc : List Value) : (as.map expose).filterAuxM pass acc =
      .ok (((as.filter passes).map expose).reverse ++ acc) := by
    induction as generalizing acc with
    | nil => rfl
    | cons a as ih =>
      rw [List.map_cons, List.filterAuxM, one]
      change (as.map expose).filterAuxM pass (cond (passes a) (expose a :: acc) acc) = _
      rw [ih, List.filter_cons]
      cases passes a with
      | true => simp
      | false => rfl
  rw [selected, List.filterM, walk []]
  change Except.ok (((as.filter passes).map expose).reverse ++ []).reverse = _
  rw [List.append_nil, List.reverse_reverse]

/-- **A loop with a test** gives one text for each item that passes. -/
theorem renderPiece_eachWhere {items test : Expr} {body : List Piece} {expose : α → Value}
    {passes : α → Bool} {line : α → String} {as : List α}
    (list : eval template σ items = .ok (.list (as.map expose)))
    (pass : ∀ a, eval template ((target, expose a) :: σ) test = .ok (.flag (passes a)))
    (h : ∀ a t, renderPieces insert template body ((target, expose a) :: ("loop", t) :: σ) =
      .ok (line a)) :
    renderPiece insert template (.loop target items (some test) body []) σ =
      .ok (String.join ((as.filter passes).map line)) := by
  rw [renderPiece, list]
  change (selected template σ target (some test) (as.map expose) >>= fun items =>
    if items.isEmpty then Except.ok "" else eachTurn _ σ target _ 0 items) = _
  rw [selected_map pass]
  change (if ((as.filter passes).map expose).isEmpty then Except.ok "" else
    eachTurn _ σ target _ 0 ((as.filter passes).map expose)) = _
  rw [eachTurn_map h]
  cases as.filter passes <;> rfl

/-- One of two parts of a template. -/
theorem renderPiece_flag {test : Expr} {yes no : List Piece} {b : Bool} {s t : String}
    (value : eval template σ test = .ok (.flag b))
    (hy : renderPieces insert template yes σ = .ok s)
    (hn : renderPieces insert template no σ = .ok t) :
    renderPiece insert template (.branch test yes no) σ = .ok (if b then s else t) := by
  rw [renderPiece, value]
  cases b with
  | true => exact hy
  | false => exact hn

end Template

namespace ComponentView

variable {v : ComponentView} {insert : String → Scope → Except Template.Error String}
  {template : String} {σ : Scope}

theorem eval_ouia (ctx : lookup σ "ctx" = v.exposed) :
    eval template σ (.field (Bundled.view "patterns") "ouia") =
      .ok (.list (v.patterns.ouia.map .text)) := by
  rw [eval, eval_view ctx rfl]
  rfl

theorem render_ouia (ctx : lookup σ "ctx" = v.exposed) :
    renderPiece insert template Bundled.reactComponent[25] σ = .ok v.ouiaText := by
  have name : eval template σ (Bundled.view "component_name") = .ok (.text v.name) :=
    eval_view ctx rfl
  have arguments : eval template σ (Bundled.view "ouia_args") =
      .ok (.tuple [.text v.ouiaArguments.1, .text v.ouiaArguments.2]) := eval_view ctx rfl
  have first : eval template σ (.item (Bundled.view "ouia_args") (.number 0)) =
      .ok (.text v.ouiaArguments.1) := by
    rw [eval, arguments]
    rfl
  have second : eval template σ (.item (Bundled.view "ouia_args") (.number 1)) =
      .ok (.text v.ouiaArguments.2) := by
    rw [eval, arguments]
    rfl
  refine renderPiece_listed (eval_ouia ctx) ?_
  refine (renderPieces_text _ (renderPieces_text _ (renderPieces_text _ (renderPieces_output name
    (renderPieces_text _ (renderPieces_output first (renderPieces_text _
      (renderPieces_output second (renderPieces_text _ renderPieces_nil))))))))).trans ?_
  simp only [String.append_empty, String.append_assoc]

theorem render_effects (ctx : lookup σ "ctx" = v.exposed) :
    renderPiece insert template Bundled.reactComponent[28] σ = .ok v.effectsText := by
  have effects : eval template σ (Bundled.view "effects") =
      .ok (.list (v.effects.map EffectUse.exposed)) := eval_view ctx rfl
  have line (e : EffectUse) (turn : Value) : renderPieces insert template [
        .text "  useEffect(() => \x7b\n",
        .text "    // ",
        .output (Bundled.part "effect" "name"),
        .text " logic\n",
        .text "  \x7d, [",
        .output (Bundled.joined ", " (Bundled.part "effect" "dependencies")),
        .text "]);\n"] (("effect", e.exposed) :: ("loop", turn) :: σ) = .ok e.text := by
    have name : eval template (("effect", e.exposed) :: ("loop", turn) :: σ)
        (Bundled.part "effect" "name") = .ok (.text e.name) := rfl
    have dependencies : eval template (("effect", e.exposed) :: ("loop", turn) :: σ)
        (Bundled.joined ", " (Bundled.part "effect" "dependencies")) =
          .ok (.text (", ".intercalate e.dependencies)) := by
      rw [Bundled.joined, eval]
      change joined ", " (e.dependencies.map Value.text) = _
      exact joined_texts ", " e.dependencies
    refine (renderPieces_text _ (renderPieces_text _ (renderPieces_output name (renderPieces_text _
      (renderPieces_text _ (renderPieces_output dependencies (renderPieces_text _
        renderPieces_nil))))))).trans ?_
    unfold EffectUse.text
    simp only [String.append_empty, String.append_assoc]
  refine renderPiece_listed effects ?_
  refine (renderPieces_text _ (renderPieces_text _ (renderPieces_cons (renderPiece_each effects line)
    renderPieces_nil))).trans ?_
  simp only [String.append_empty, String.append_assoc]

theorem render_classes (ctx : lookup σ "ctx" = v.exposed) :
    renderPieces insert template ((Bundled.reactComponent.drop 29).take 10) σ =
      .ok v.classesText := by
  have key : eval template σ (Bundled.view "styles_key") = .ok (.text v.stylesKey) :=
    eval_view ctx rfl
  have bindings : eval template σ (Bundled.view "variant_bindings") =
      .ok (.list (v.bindings.map VariantBinding.exposed)) := eval_view ctx rfl
  have flag : eval template σ (Bundled.view "has_class_name") = .ok (.flag v.hasClassName) :=
    eval_view ctx rfl
  have line (b : VariantBinding) (turn : Value) : renderPieces insert template [
        .text "    ",
        .output (Bundled.part "binding" "local"),
        .text " && styles.modifiers[",
        .output (Bundled.part "binding" "local"),
        .text "],\n"] (("binding", b.exposed) :: ("loop", turn) :: σ) = .ok b.line := by
    simp only [VariantBinding.line, String.append_assoc]
    rfl
  have pass (b : VariantBinding) : eval template (("binding", b.exposed) :: σ)
      (Bundled.part "binding" "matched") = .ok (.flag b.matched) := rfl
  have modifiers : renderPiece insert template Generator.modifierLoop σ =
      .ok (Modifier.lines v.modifiers) := Generator.render_modifierLoop ctx
  have passed : renderPiece insert template Bundled.reactComponent[37] σ =
      .ok (if v.hasClassName then "    className\n" else "") :=
    renderPiece_flag flag (renderPieces_text _ renderPieces_nil) renderPieces_nil
  refine (renderPieces_text _ (renderPieces_text _ (renderPieces_text _ (renderPieces_text _
    (renderPieces_output key (renderPieces_text _ (renderPieces_cons
      (renderPiece_eachWhere bindings pass line) (renderPieces_cons modifiers (renderPieces_cons
        passed (renderPieces_text _ renderPieces_nil)))))))))).trans ?_
  unfold classesText
  simp only [String.append_empty, String.append_assoc]

theorem render_markup (ctx : lookup σ "ctx" = v.exposed) :
    renderPieces insert template (Bundled.reactComponent.drop 39) σ = .ok v.markupText := by
  have name : eval template σ (Bundled.view "component_name") = .ok (.text v.name) :=
    eval_view ctx rfl
  have flag : eval template σ (Bundled.view "has_children") = .ok (.flag v.hasChildren) :=
    eval_view ctx rfl
  have ouia : renderPiece insert template Bundled.reactComponent[44] σ =
      .ok (if v.patterns.ouia.isEmpty then "" else "      \x7b...ouiaProps\x7d\n") :=
    renderPiece_listed (eval_ouia ctx) (renderPieces_text _ renderPieces_nil)
  have children : renderPiece insert template Bundled.reactComponent[46] σ =
      .ok (if v.hasChildren
        then "    >\n" ++ ("      \x7bchildren\x7d\n" ++ ("    </div>\n" ++ ""))
        else "    />\n" ++ "") :=
    renderPiece_flag flag
      (renderPieces_text _ (renderPieces_text _ (renderPieces_text _ renderPieces_nil)))
      (renderPieces_text _ renderPieces_nil)
  refine (renderPieces_text _ (renderPieces_text _ (renderPieces_text _ (renderPieces_text _
    (renderPieces_text _ (renderPieces_cons ouia (renderPieces_text _ (renderPieces_cons children
      (renderPieces_text _ (renderPieces_text _ (renderPieces_text _ (renderPieces_output name
        (renderPieces_text _ (renderPieces_output name (renderPieces_text _
          renderPieces_nil))))))))))))))).trans ?_
  unfold markupText
  simp only [String.append_empty, String.append_assoc]

/-- **The text of a component.** Its head is followed by the calls of hooks, its state, its effects, its
style classes and its markup, and nothing else. -/
theorem render_parts (v : ComponentView) : ∃ front between,
    Generator.render ⟨.nextjs, v⟩ (Template.library none) .component =
      .ok (front ++ v.importText ++ between ++ v.patternText ++ v.ouiaText ++ v.callsText ++
        v.stateText ++ v.effectsText ++ v.classesText ++ v.markupText) := by
  obtain ⟨text, rendered⟩ := Generator.render_bundled ⟨.nextjs, v⟩ .component
  rw [rendered]
  have name : Part.component.template .nextjs = "nextjs/component.tsx.j2" := by decide
  rw [Generator.render_eq_renderPieces name rfl] at rendered
  have split : Bundled.reactComponent = Bundled.reactComponent.take 11 ++
      ([Bundled.reactComponent[11]] ++ ((Bundled.reactComponent.drop 12).take 5 ++
        ((Bundled.reactComponent.drop 17).take 8 ++ ([Bundled.reactComponent[25]] ++
          ([Bundled.reactComponent[26]] ++ ([Bundled.reactComponent[27]] ++
            ([Bundled.reactComponent[28]] ++ ((Bundled.reactComponent.drop 29).take 10 ++
              Bundled.reactComponent.drop 39)))))))) := rfl
  rw [split] at rendered
  obtain ⟨front, _, -, t₁, rfl⟩ := exists_of_renderPieces_append rendered
  obtain ⟨_, _, imports, t₂, rfl⟩ := exists_of_renderPieces_append t₁
  obtain ⟨between, _, -, t₃, rfl⟩ := exists_of_renderPieces_append t₂
  obtain ⟨_, _, pattern, t₄, rfl⟩ := exists_of_renderPieces_append t₃
  obtain ⟨_, _, ouia, t₅, rfl⟩ := exists_of_renderPieces_append t₄
  obtain ⟨_, _, calls, t₆, rfl⟩ := exists_of_renderPieces_append t₅
  obtain ⟨_, _, state, t₇, rfl⟩ := exists_of_renderPieces_append t₆
  obtain ⟨_, _, effects, t₈, rfl⟩ := exists_of_renderPieces_append t₇
  obtain ⟨_, _, classes, markup, rfl⟩ := exists_of_renderPieces_append t₈
  cases imports.symm.trans (renderPieces_cons (render_import rfl) renderPieces_nil)
  cases pattern.symm.trans (render_pattern rfl)
  cases ouia.symm.trans (renderPieces_cons (render_ouia rfl) renderPieces_nil)
  cases calls.symm.trans (renderPieces_cons (render_calls rfl) renderPieces_nil)
  cases state.symm.trans (renderPieces_cons (render_state rfl) renderPieces_nil)
  cases effects.symm.trans (renderPieces_cons (render_effects rfl) renderPieces_nil)
  cases classes.symm.trans (render_classes rfl)
  cases markup.symm.trans (render_markup rfl)
  refine ⟨front, between, congrArg Except.ok ?_⟩
  simp only [String.append_empty, String.append_assoc]

/-- What comes between the head, the calls and the state, and what comes after, left open. -/
theorem render_nextjs (v : ComponentView) : ∃ front between wiring back,
    Generator.render ⟨.nextjs, v⟩ (Template.library none) .component =
      .ok (front ++ v.importText ++ between ++ v.patternText ++ wiring ++ v.callsText ++
        v.stateText ++ back) := by
  obtain ⟨front, between, text⟩ := v.render_parts
  refine ⟨front, between, v.ouiaText, v.effectsText ++ v.classesText ++ v.markupText, ?_⟩
  rw [text]
  simp only [String.append_assoc]

end ComponentView

end PropForge
