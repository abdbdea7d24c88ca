import PropForge.Proofs.Component.StoryFile
import PropForge.Proofs.TypeScript.StringLiteral

/-!
# Values as literals

The values of variants are written into the generated files in two ways. In the types all that is not
printable ASCII is escaped; in the stories and tests only what would end the literal or its line is.

* `inLiteral_eq_replaced`: the escapes of the second way, one after the other;
* `spells_literalChar`, `spells_quotedChar`: what each way makes of one character stands for it;
* `exists_of_infix_pieces`: the text of some pieces is in the text of their template;
* `literals_agree`: both ways make one literal of a text, which denotes it, and so do the files.
-/

namespace PropForge

open Template TypeScript.StringLiteral

section Writing

namespace Text

/-- A text with a character replaced. -/
def replaced (c : Char) (text cs : List Char) : List Char :=
  cs.flatMap fun d => if d = c then text else [d]

/-- The escapes may be made one after the other if that of the backslash is the first. -/
theorem inLiteral_eq_replaced (cs : List Char) :
    inLiteral cs = replaced '\n' ['\\', 'n'] (replaced '\r' ['\\', 'r']
      (replaced '"' ['\\', '"'] (replaced '\\' ['\\', '\\'] cs))) := by
  simp only [inLiteral, replaced, List.flatMap_assoc]
  congr 1
  funext c
  unfold literalChar
  split
  · rfl
  · rfl
  · rfl
  · rfl
  · rename_i backslash quote ret feed
    rw [if_neg backslash, List.flatMap_singleton, if_neg quote, List.flatMap_singleton,
      if_neg ret, List.flatMap_singleton, if_neg feed]

/-- What would end a literal or its line is escaped, and the rest stands for itself. -/
theorem spells_literalChar (c : Char) : Spells '"' (literalChar c) (units c.toNat) := by
  unfold literalChar
  split
  · exact spells_single (by decide) rfl
  · exact spells_single (by decide) rfl
  · exact spells_single (by decide) rfl
  · exact spells_single (by decide) rfl
  · rename_i backslash quote ret feed
    exact spells_plain (by decide) quote backslash feed ret

theorem spells_quotedChar (c : Char) : Spells '"' (quotedChar c) (units c.toNat) := by
  obtain ⟨letter, text, mem⟩ | ⟨text, printable, quote, backslash⟩ | ⟨text, small⟩ |
    ⟨n, small, pair, text⟩ := quotedChar_cases c
  · have all : ∀ p ∈ letterEscapes,
        singleEscape? p.1 = some p.2.toNat ∧ p.2.toNat < 0x10000 := by decide
    obtain ⟨single, small⟩ := all _ mem
    rw [text, units, if_pos small]
    exact spells_single (by decide) single
  · have feed : c ≠ '\n' := by
      rintro rfl
      exact absurd printable (by decide)
    have ret : c ≠ '\r' := by
      rintro rfl
      exact absurd printable (by decide)
    rw [text]
    exact spells_plain (by decide) quote backslash feed ret
  · rw [text, units, if_pos small]
    exact spells_unitEscape (by decide) small
  · rw [text, pair, units, if_neg (by omega), Nat.add_sub_cancel_left]
    exact (spells_unitEscape (by decide) (by omega)).append
      (spells_unitEscape (by decide) (by omega))

end Text

/-- A text between quotes, with what would end the literal or its line escaped. -/
def quotedText (s : String) : String := "\"" ++ literalText s ++ "\""

theorem toList_literalText (s : String) :
    (literalText s).toList = s.toList.flatMap Text.literalChar := by
  rw [literalText, onChars, String.toList_ofList, Text.inLiteral]

theorem literalText_append (s t : String) :
    literalText (s ++ t) = literalText s ++ literalText t := by
  rw [← String.toList_inj]
  simp only [String.toList_append, toList_literalText, List.flatMap_append]

theorem spells_literalText (s : String) : Spells '"' (literalText s).toList (utf16 s.toList) := by
  rw [toList_literalText]
  exact spells_flatMap Text.spells_literalChar s.toList

theorem denotes_quotedText_iff (s : String) {value : List Nat} :
    Denotes (quotedText s) value ↔ value = utf16 s.toList := by
  have shape : quotedText s = String.ofList ('"' :: ((literalText s).toList ++ ['"'])) := by
    rw [← String.toList_inj]
    simp [quotedText]
  rw [shape, (spells_literalText s).denotes_iff]

theorem denotes_literal_iff (s : String) {value : List Nat} :
    Denotes (Naming.literal s) value ↔ value = utf16 s.toList :=
  (spells_flatMap Text.spells_quotedChar s.toList).denotes_iff

end Writing

/-- A variant as the union of its values. -/
def VariantSpec.aliasText (w : VariantSpec) : String :=
  "export type " ++ w.name ++ " = " ++
    (if w.values.isEmpty then "never" else " | ".intercalate (w.values.map Naming.literal)) ++ ";\n"

/-- The test of a value. Its title and the class that it looks for are literals with the value in them;
in the markup the value is an attribute, which is no literal. -/
def VariantCase.testText (component lower : String) (c : VariantCase) : String :=
  "\n" ++ "  it(" ++ quotedText ("renders with " ++ c.propName ++ " variant '" ++ c.value ++ "'") ++
    ", () => \x7b\n" ++ "    render(<" ++ component ++ " " ++ c.propName ++ "=\"" ++
    attributeText c.value ++ "\">Test</" ++ component ++ ">);\n" ++
    "    expect(screen.getByText(\"Test\")).toHaveClass(\"" ++ cssPrefix ++ lower ++ "--" ++
    literalText c.value ++ "\");\n" ++ "  \x7d);\n"

/-- The story of a value gives it as a literal of its own. -/
theorem VariantCase.exists_quotedText_of_text (component : String) (c : VariantCase) :
    ∃ front back, c.text component =
      front ++ Naming.propKey c.propName ++ ": " ++ quotedText c.value ++ back := by
  refine ⟨"\n" ++ "export const " ++ c.storyName ++ ": Story = \x7b\n" ++ "  args: \x7b\n" ++
    "    children: \"" ++ literalText (Text.upperFirst c.value) ++ " " ++ component ++ "\",\n" ++
    "    ", ",\n" ++ "  \x7d,\n" ++ "\x7d;\n", ?_⟩
  have opening : ": \"" = ": " ++ "\"" := by decide
  have closing : "\",\n" = "\"" ++ ",\n" := by decide
  unfold VariantCase.text VariantCase.argsText quotedText
  rw [opening, closing]
  simp only [String.append_assoc]

namespace Template

variable {insert : String → Scope → Except Template.Error String} {template : String} {σ : Scope}

/-- The text of some pieces is in the text of the pieces they stand among. -/
theorem exists_of_infix_pieces {pieces few : List Piece} (among : few <:+: pieces)
    {t y : String} (rendered : renderPieces insert template pieces σ = .ok t)
    (part : renderPieces insert template few σ = .ok y) :
    ∃ front back, t = front ++ y ++ back := by
  obtain ⟨before, after, rfl⟩ := among
  rw [List.append_assoc] at rendered
  obtain ⟨front, last, -, rest, rfl⟩ := exists_of_renderPieces_append rendered
  obtain ⟨_, back, here, -, rfl⟩ := exists_of_renderPieces_append rest
  cases here.symm.trans part
  exact ⟨front, back, (String.append_assoc ..).symm⟩

theorem mapM_apply_texts (f : Filter) (ss : List String) :
    (ss.map Value.text).mapM f.apply = .ok ((ss.map f.run).map .text) := by
  induction ss with
  | nil => rfl
  | cons s ss ih =>
    rw [List.map_cons, List.mapM_cons, ih]
    rfl

/-- A filter on each text of a list. -/
theorem eval_mapped {name : String} {f : Filter} (found : filter? name = some f) {e : Expr}
    {ss : List String} (list : eval template σ e = .ok (.texts ss)) :
    eval template σ (Bundled.mapped name e) = .ok (.texts (ss.map f.run)) := by
  rw [Bundled.mapped, eval, list]
  change applyFilter "map" (.texts ss) [.text name] [] = _
  simp only [applyFilter, Value.texts, Value.items, found, bind, Except.bind, mapM_apply_texts]
  rfl

/-- The texts of a list between separators, or another text if there are none. -/
theorem eval_listed {e listed : Expr} {ss : List String} {other text : String}
    (list : eval template σ e = .ok (.texts ss))
    (h : eval template σ listed = .ok (.text text)) :
    eval template σ (.choose e listed (some (.text other)) 1) =
      .ok (.text (if ss.isEmpty then other else text)) := by
  rw [eval, list]
  cases ss with
  | nil => rfl
  | cons s ss => exact h

/-- One of two texts, by a flag. -/
theorem eval_flagged {e : Expr} {b : Bool} (flag : eval template σ e = .ok (.flag b))
    (yes no : String) : eval template σ (.choose e (.text yes) (some (.text no)) 1) =
      .ok (.text (if b then yes else no)) := by
  rw [eval, flag]
  cases b <;> rfl

end Template

namespace ComponentView

variable {v : ComponentView} {insert : String → Scope → Except Template.Error String}
  {template : String} {σ : Scope}

theorem render_aliases (ctx : lookup σ "ctx" = v.exposed) :
    renderPieces insert template Bundled.variantTypes σ =
      .ok (String.join (v.variants.map VariantSpec.aliasText)) := by
  have variants : eval template σ (Bundled.view "variants") =
      .ok (.list (v.variants.map VariantSpec.exposed)) := eval_view ctx rfl
  have line (w : VariantSpec) (turn : Value) : renderPieces insert template [
      .text "export type ",
      .output (Bundled.part "variant" "name"),
      .text " = ",
      .output (.choose (Bundled.part "variant" "values")
        (Bundled.joined " | " (Bundled.mapped "ts_literal" (Bundled.part "variant" "values")))
          (some (.text "never")) 1),
      .text ";\n"] (("variant", w.exposed) :: ("loop", turn) :: σ) = .ok w.aliasText := by
    have name : eval template (("variant", w.exposed) :: ("loop", turn) :: σ)
        (Bundled.part "variant" "name") = .ok (.text w.name) := rfl
    have values : eval template (("variant", w.exposed) :: ("loop", turn) :: σ)
        (Bundled.part "variant" "values") = .ok (.texts w.values) := rfl
    have found : filter? "ts_literal" = some ⟨Naming.literal, .printed⟩ := rfl
    have union : eval template (("variant", w.exposed) :: ("loop", turn) :: σ)
        (Bundled.joined " | " (Bundled.mapped "ts_literal" (Bundled.part "variant" "values"))) =
          .ok (.text (" | ".intercalate (w.values.map Naming.literal))) := by
      rw [Bundled.joined, eval, eval_mapped found values]
      exact joined_texts _ _
    refine (renderPieces_text _ (renderPieces_output name (renderPieces_text _
      (renderPieces_output (eval_listed values union) (renderPieces_text _
        renderPieces_nil))))).trans ?_
    unfold VariantSpec.aliasText
    simp only [String.append_empty, String.append_assoc]
  refine (renderPieces_cons (renderPiece_each variants line) renderPieces_nil).trans ?_
  rw [String.append_empty]

theorem render_test (ctx : lookup σ "ctx" = v.exposed)
    (classes : lookup σ "css_prefix" = .text cssPrefix) (c : VariantCase) (turn : Value) :
    renderPieces insert template [
      .text "\n",
      .text "  it(\"renders with ",
      .output (Bundled.via "js_string" (Bundled.part "case" "prop_name")),
      .text " variant '",
      .output (Bundled.via "js_string" (Bundled.part "case" "value")),
      .text "'\", () => \x7b\n",
      .text "    render(<",
      .output (Bundled.view "component_name"),
      .text " ",
      .output (Bundled.part "case" "prop_name"),
      .text "=\"",
      .output (Bundled.via "jsx_attr" (Bundled.part "case" "value")),
      .text "\">Test</",
      .output (Bundled.view "component_name"),
      .text ">);\n",
      .text "    expect(screen.getByText(\"Test\")).toHaveClass(\"",
      .output (.name "css_prefix"),
      .output (Bundled.view "component_name_lower"),
      .text "--",
      .output (Bundled.via "js_string" (Bundled.part "case" "value")),
      .text "\");\n",
      .text "  \x7d);\n"] (("case", c.exposed) :: ("loop", turn) :: σ) =
        .ok (c.testText v.name v.nameLower) := by
  have name : eval template (("case", c.exposed) :: ("loop", turn) :: σ)
      (Bundled.view "component_name") = .ok (.text v.name) := eval_view ctx rfl
  have lower : eval template (("case", c.exposed) :: ("loop", turn) :: σ)
      (Bundled.view "component_name_lower") = .ok (.text v.nameLower) := eval_view ctx rfl
  have front : eval template (("case", c.exposed) :: ("loop", turn) :: σ)
      (.name "css_prefix") = .ok (.text cssPrefix) := congrArg Except.ok classes
  have prop : eval template (("case", c.exposed) :: ("loop", turn) :: σ)
      (Bundled.part "case" "prop_name") = .ok (.text c.propName) := rfl
  have title : eval template (("case", c.exposed) :: ("loop", turn) :: σ)
      (Bundled.via "js_string" (Bundled.part "case" "prop_name")) =
        .ok (.text (literalText c.propName)) := rfl
  have value : eval template (("case", c.exposed) :: ("loop", turn) :: σ)
      (Bundled.via "js_string" (Bundled.part "case" "value")) =
        .ok (.text (literalText c.value)) := rfl
  have markup : eval template (("case", c.exposed) :: ("loop", turn) :: σ)
      (Bundled.via "jsx_attr" (Bundled.part "case" "value")) =
        .ok (.text (attributeText c.value)) := rfl
  refine (renderPieces_text _ (renderPieces_text _ (renderPieces_output title (renderPieces_text _
    (renderPieces_output value (renderPieces_text _ (renderPieces_text _
      (renderPieces_output name (renderPieces_text _ (renderPieces_output prop
        (renderPieces_text _ (renderPieces_output markup (renderPieces_text _
          (renderPieces_output name (renderPieces_text _ (renderPieces_text _
            (renderPieces_output front (renderPieces_output lower (renderPieces_text _
              (renderPieces_output value (renderPieces_text _ (renderPieces_text _
                renderPieces_nil)))))))))))))))))))))).trans ?_
  have opening : "  it(\"renders with " = "  it(" ++ ("\"" ++ literalText "renders with ") := by
    decide
  have between : " variant '" = literalText " variant '" := by decide
  have closing : "'\", () => \x7b\n" = literalText "'" ++ ("\"" ++ ", () => \x7b\n") := by decide
  unfold VariantCase.testText quotedText
  rw [opening, closing]
  simp only [literalText_append, ← between, String.append_empty, String.append_assoc]

/-- The parts in which the variants are types. -/
def DeclaresVariants : Framework → Part → Prop
  | _, .types => True
  | _, .schemaTypes => True
  | .nextjs, .component => True
  | _, _ => False

/-- The text of some pieces is in the text of their part. -/
theorem render_of_isInfix {g : Generator} {part : Part} {template : String} {pieces few : List Piece}
    (named : part.template g.framework = template)
    (found : Template.library none template = .ok pieces) (among : few <:+: pieces) {text : String}
    (rendered : renderPieces (Template.render (Template.library none) 199) template few g.scope =
      .ok text) :
    ∃ front back, g.render (Template.library none) part = .ok (front ++ text ++ back) := by
  obtain ⟨whole, all⟩ := g.render_bundled part
  rw [all]
  rw [Generator.render_eq_renderPieces named found] at all
  obtain ⟨front, back, rfl⟩ := exists_of_infix_pieces among all rendered
  exact ⟨front, back, rfl⟩

/-- The text of a piece is in the text of its part. -/
theorem render_of_mem {g : Generator} {part : Part} {template : String} {pieces : List Piece}
    (named : part.template g.framework = template)
    (found : Template.library none template = .ok pieces) {piece : Piece} (mem : piece ∈ pieces)
    {text : String} (one : renderPiece (Template.render (Template.library none) 199) template piece
      g.scope = .ok text) :
    ∃ front back, g.render (Template.library none) part = .ok (front ++ text ++ back) := by
  have alone := renderPieces_cons one renderPieces_nil
  rw [String.append_empty] at alone
  obtain ⟨before, after, rfl⟩ := List.append_of_mem mem
  exact render_of_isInfix named found ⟨before, after, List.append_cons before piece after ▸ rfl⟩ alone

/-- What is written for variants only is in the part with whatever stands around the types. -/
theorem exists_of_listed {g : Generator} {part : Part} {variants : List VariantSpec} {a b : String}
    (h : ∃ front back, g.render (Template.library none) part = .ok (front ++
      (if variants.isEmpty then "" else
        a ++ (String.join (variants.map VariantSpec.aliasText) ++ b)) ++ back)) :
    ∃ front back, g.render (Template.library none) part =
      .ok (front ++ String.join (variants.map VariantSpec.aliasText) ++ back) := by
  obtain ⟨front, back, rendered⟩ := h
  rw [rendered]
  cases variants with
  | nil => exact ⟨front, back, rfl⟩
  | cons w rest =>
    refine ⟨front ++ a, b ++ back, congrArg Except.ok ?_⟩
    simp only [List.isEmpty_cons, Bool.false_eq_true, if_false, String.append_assoc]

/-- **The types** of the variants, in every part that has them. -/
theorem render_variants (v : ComponentView) {framework : Framework} {part : Part}
    (declares : DeclaresVariants framework part) :
    ∃ front back, Generator.render ⟨framework, v⟩ (Template.library none) part =
      .ok (front ++ String.join (v.variants.map VariantSpec.aliasText) ++ back) := by
  have variants (template : String) : eval template (Generator.scope ⟨framework, v⟩)
      (Bundled.view "variants") = .ok (.list (v.variants.map VariantSpec.exposed)) :=
    eval_view rfl rfl
  have inserted (template : String) : renderPiece (Template.render (Template.library none) 199)
      template (.insert "shared/variant_types.ts.j2") (Generator.scope ⟨framework, v⟩) =
        .ok (String.join (v.variants.map VariantSpec.aliasText)) := by
    have found : Template.library none "shared/variant_types.ts.j2" = .ok Bundled.variantTypes := rfl
    rw [renderPiece, Template.render, found]
    exact render_aliases rfl
  have below (template : String) := renderPiece_listed (variants template)
    (renderPieces_text "\n" (renderPieces_cons (inserted template) renderPieces_nil))
  have above (template : String) := renderPiece_listed (variants template)
    ((renderPieces_cons (inserted template) (renderPieces_text "\n" renderPieces_nil)).trans
      (congrArg Except.ok String.empty_append.symm))
  cases part with
  | types =>
    have name : Part.types.template framework = "shared/types.ts.j2" := rfl
    have found : Template.library none "shared/types.ts.j2" = .ok Bundled.types := rfl
    have mem : Bundled.types[5] ∈ Bundled.types := List.getElem_mem _
    exact exists_of_listed (render_of_mem name found mem (below _))
  | schemaTypes =>
    have name : Part.schemaTypes.template framework = "shared/schema_types.ts.j2" := rfl
    have found : Template.library none "shared/schema_types.ts.j2" = .ok Bundled.schemaTypes := rfl
    have mem : Bundled.schemaTypes[10] ∈ Bundled.schemaTypes := List.getElem_mem _
    exact exists_of_listed (render_of_mem name found mem (above _))
  | component =>
    cases framework with
    | nextjs =>
      have name : Part.component.template .nextjs = "nextjs/component.tsx.j2" := by decide
      have found : Template.library none "nextjs/component.tsx.j2" = .ok Bundled.reactComponent :=
        rfl
      have mem : Bundled.reactComponent[15] ∈ Bundled.reactComponent := List.getElem_mem _
      exact exists_of_listed (render_of_mem name found mem (below _))
    | vue => exact declares.elim
    | svelte => exact declares.elim
  | _ => cases framework <;> exact declares.elim

/-- **The tests**, one for each case. -/
theorem render_tests (v : ComponentView) (framework : Framework) :
    ∃ front back, Generator.render ⟨framework, v⟩ (Template.library none) .tests =
      .ok (front ++ String.join (v.cases.map (VariantCase.testText v.name v.nameLower)) ++ back) := by
  have name : Part.tests.template framework = "shared/test.tsx.j2" := rfl
  have found : Template.library none "shared/test.tsx.j2" = .ok Bundled.tests := rfl
  have cases : eval "shared/test.tsx.j2" (Generator.scope ⟨framework, v⟩)
      (Bundled.view "variant_cases") = .ok (.list (v.cases.map VariantCase.exposed)) :=
    eval_view rfl rfl
  have mem : Bundled.tests[27] ∈ Bundled.tests := List.getElem_mem _
  exact render_of_mem name found mem (renderPiece_each cases (render_test rfl rfl))

/-- **Both ways of writing a text** make one literal between double quotes, which denotes the text; in
one of them it is of printable ASCII, and in the other the text is denoted wherever it stands in a
literal. The types have every value of a variant in the first way. The stories and the tests have it in
the second, for the cases have the values of the variants, in their order. So the literals of a value in
the types and in its story denote the same. -/
theorem literals_agree :
    (∀ s : String,
      (∀ value, Denotes (quotedText s) value ↔ value = utf16 s.toList) ∧
      (∀ value, Denotes (Naming.literal s) value ↔ value = utf16 s.toList) ∧
      (∀ c ∈ (Naming.literal s).toList, Text.IsPrintable c) ∧
      Spells '"' (literalText s).toList (utf16 s.toList)) ∧
    ∀ tables schema v, ofSchema tables schema = .ok v →
      v.variants = schema.contract.variants ∧
      v.cases.map (·.value) = schema.contract.variants.flatMap (·.values) ∧
      (∀ framework part, DeclaresVariants framework part → ∃ front back,
        Generator.render ⟨framework, v⟩ (Template.library none) part =
          .ok (front ++ String.join (v.variants.map VariantSpec.aliasText) ++ back)) ∧
      (∀ framework, Generator.render ⟨framework, v⟩ (Template.library none) .stories =
        .ok (v.metaText ++ v.defaultText ++ String.join (v.cases.map (VariantCase.text v.name)))) ∧
      (∀ framework, ∃ front back,
        Generator.render ⟨framework, v⟩ (Template.library none) .tests =
          .ok (front ++ String.join (v.cases.map (VariantCase.testText v.name v.nameLower)) ++
            back)) ∧
      ∀ c ∈ v.cases,
        (∃ front back, c.text v.name =
          front ++ Naming.propKey c.propName ++ ": " ++ quotedText c.value ++ back) ∧
        ∀ value, Denotes (Naming.literal c.value) value ↔ Denotes (quotedText c.value) value := by
  refine ⟨fun s => ⟨?quoted, ?literal, ?printable, spells_literalText s⟩, ?files⟩
  case quoted => exact fun value => denotes_quotedText_iff s
  case literal => exact fun value => denotes_literal_iff s
  case printable =>
    intro c hc
    rw [Naming.literal, String.toList_ofList] at hc
    exact Text.isPrintable_of_mem_quoted hc
  case files =>
    intro tables schema v h
    refine ⟨variants_eq_of_ofSchema h, values_of_ofSchema h, fun framework part => v.render_variants,
      v.render_stories, v.render_tests, ?_⟩
    intro c hc
    refine ⟨c.exists_quotedText_of_text v.name, fun value => ?_⟩
    rw [denotes_literal_iff, denotes_quotedText_iff]

/-- The two ways, on a letter that is not of ASCII, a quotation mark and an end of a line. -/
example : (Naming.literal "é\"\n", quotedText "é\"\n") =
    ("\"\\u00e9\\\"\\n\"", "\"é\\\"\\n\"") := by decide +kernel

end ComponentView

end PropForge
