import PropForge.Proofs.Component.Literals
import PropForge.Proofs.Text.Comment

/-!
# Descriptions as comments

The interface of a component's props has the description of each prop in a comment of its own, on the
line before the prop. The types and the component list the props by section, the types of a stored
schema as they are declared:

* `eachTurn_between`: a loop that writes a separator in each turn but the first;
* `render_sectioned`, `render_declared`: the two forms of the interface;
* `descriptions_end_once`: no description ends its comment early.
-/

namespace PropForge

open Template

/-- The comment that a description stands in. -/
def descriptionComment (description : String) : String :=
  "/** " ++ commentText description ++ " */"

/-- A prop as a member of an interface, below its description. -/
def PropSpec.memberText (p : PropSpec) : String :=
  let description := p.description.getD ""
  (if description = "" then "" else "  " ++ descriptionComment description ++ "\n") ++
    "  " ++ Naming.propKey p.name ++ (if p.required then "" else "?") ++ ": " ++ p.type ++ ";\n"

/-- The members of a section, below its title. -/
def PropSection.membersText (s : PropSection) : String :=
  "  // " ++ s.title ++ "\n" ++ String.join (s.props.map PropSpec.memberText)

namespace ComponentView

variable (v : ComponentView)

/-- The interface of the props with the given members. -/
def interfaceText (members : String) : String :=
  "export interface " ++ v.name ++ "Props \x7b\n" ++ members ++ "\x7d\n"

/-- The props by section, with an empty line between two sections. -/
def sectionedMembers : String := "\n".intercalate (v.sections.map PropSection.membersText)

/-- The props as they are declared. -/
def declaredMembers : String := String.join (v.props.map PropSpec.memberText)

end ComponentView

section Comments

theorem toList_descriptionComment (d : String) : (descriptionComment d).toList =
    ('/' :: '*' :: '*' :: ' ' :: (Text.inComment d.toList ++ [' '])) ++ Text.commentEnd := by
  simp [descriptionComment, commentText, onChars, Text.commentEnd]

/-- What stands before the end of a description's comment ends no comment. -/
theorem descriptionComment_front (d : String) :
    ¬ Text.commentEnd <:+: '*' :: ' ' :: (Text.inComment d.toList ++ [' ']) := by
  have inner : ¬ Text.commentEnd <:+: Text.inComment d.toList ++ [' '] :=
    Text.not_commentEnd_infix_append (Text.inComment_ends_nothing d.toList) (by decide) (by decide)
  simpa [Text.commentEnd_infix_cons] using inner

/-- **A comment** is read up to its end, whatever follows it. -/
theorem commentLength_descriptionComment (d : String) (rest : List Char) :
    TypeScript.commentLength ((descriptionComment d).toList ++ rest) =
      (descriptionComment d).length := by
  have tail := TypeScript.blockCommentTail_append
    (Text.not_commentEnd_infix_append_star (descriptionComment_front d)) rest
  rw [← String.length_toList, toList_descriptionComment]
  simp only [List.cons_append, TypeScript.commentLength] at tail ⊢
  rw [tail]
  simp [Text.commentEnd]

end Comments

namespace Template

variable {insert : String → Scope → Except Template.Error String} {template target : String}
  {σ : Scope} {α : Type}

/-- **A loop with separators** writes one before each text but the first. -/
theorem eachTurn_between {body : Scope → Except Template.Error String} {expose : α → Value}
    {line : α → String} {separator : String}
    (h : ∀ a i n, body ((target, expose a) :: ("loop", turn i n) :: σ) =
      .ok ((if i = 0 then "" else separator) ++ line a)) (items : List α) (length : Nat) :
    eachTurn body σ target length 0 (items.map expose) =
      .ok (separator.intercalate (items.map line)) := by
  have onward (index : Nat) (a : α) (rest : List α) :
      eachTurn body σ target length index ((a :: rest).map expose) =
        .ok ((if index = 0 then "" else separator) ++
          separator.intercalate ((a :: rest).map line)) := by
    induction rest generalizing index a with
    | nil =>
      rw [List.map_cons, List.map_nil, eachTurn, h, eachTurn]
      exact congrArg Except.ok (by simp)
    | cons b rest ih =>
      rw [List.map_cons, eachTurn, h, ih, if_neg (Nat.succ_ne_zero index)]
      refine congrArg Except.ok ?_
      rw [List.map_cons, List.map_cons, List.map_cons, String.intercalate_cons_cons]
      simp only [String.append_assoc]
  cases items with
  | nil => rfl
  | cons a rest =>
    rw [onward 0 a rest, if_pos rfl, String.empty_append]

theorem renderPiece_between {items : Expr} {body : List Piece} {expose : α → Value}
    {line : α → String} {separator : String} {as : List α}
    (list : eval template σ items = .ok (.list (as.map expose)))
    (h : ∀ a i n, renderPieces insert template body ((target, expose a) :: ("loop", turn i n) :: σ) =
      .ok ((if i = 0 then "" else separator) ++ line a)) :
    renderPiece insert template (Bundled.each target items body) σ =
      .ok (separator.intercalate (as.map line)) := by
  rw [Bundled.each, renderPiece, list]
  change (if (as.map expose).isEmpty then Except.ok "" else
    eachTurn _ σ target _ 0 (as.map expose)) = _
  rw [eachTurn_between h]
  cases as <;> rfl

end Template

namespace ComponentView

variable {v : ComponentView} {insert : String → Scope → Except Template.Error String}
  {template : String} {σ : Scope}

theorem render_member (p : PropSpec) (turn : Value) :
    renderPieces insert template [
      .branch (Bundled.part "prop" "description") [
          .text "  /** ",
          .output (Bundled.via "doc_comment" (Bundled.part "prop" "description")),
          .text " */\n"] [],
      .text "  ",
      .output (Bundled.via "prop_key" (Bundled.part "prop" "name")),
      .output (.choose (Bundled.part "prop" "required") (.text "") (some (.text "?")) 1),
      .text ": ",
      .output (Bundled.part "prop" "type"),
      .text ";\n"] (("prop", p.exposed) :: ("loop", turn) :: σ) = .ok p.memberText := by
  have value : eval template (("prop", p.exposed) :: ("loop", turn) :: σ)
      (Bundled.part "prop" "description") = .ok (.ofOption p.description) := rfl
  have described (text : String) (given : p.description = some text) :
      renderPieces insert template [
        .text "  /** ",
        .output (Bundled.via "doc_comment" (Bundled.part "prop" "description")),
        .text " */\n"] (("prop", p.exposed) :: ("loop", turn) :: σ) =
          .ok ("  " ++ descriptionComment text ++ "\n") := by
    have description : eval template (("prop", p.exposed) :: ("loop", turn) :: σ)
        (Bundled.via "doc_comment" (Bundled.part "prop" "description")) =
          .ok (.text (commentText text)) := by
      rw [Bundled.via, eval, value, given]
      rfl
    have opening : "  /** " = "  " ++ "/** " := by decide
    have closing : " */\n" = " */" ++ "\n" := by decide
    refine (renderPieces_text _ (renderPieces_output description (renderPieces_text _
      renderPieces_nil))).trans ?_
    rw [opening, closing, descriptionComment]
    simp only [String.append_empty, String.append_assoc]
  have key : eval template (("prop", p.exposed) :: ("loop", turn) :: σ)
      (Bundled.via "prop_key" (Bundled.part "prop" "name")) =
        .ok (.text (Naming.propKey p.name)) := rfl
  have mark : eval template (("prop", p.exposed) :: ("loop", turn) :: σ)
      (.choose (Bundled.part "prop" "required") (.text "") (some (.text "?")) 1) =
        .ok (.text (if p.required then "" else "?")) := eval_flagged rfl "" "?"
  have type : eval template (("prop", p.exposed) :: ("loop", turn) :: σ)
      (Bundled.part "prop" "type") = .ok (.text p.type) := rfl
  refine (renderPieces_cons (renderPiece_given value described) (renderPieces_text _
    (renderPieces_output key (renderPieces_output mark (renderPieces_text _
      (renderPieces_output type (renderPieces_text _ renderPieces_nil))))))).trans ?_
  unfold PropSpec.memberText
  simp only [String.append_empty, String.append_assoc]

theorem render_members (s : PropSection) (i n : Nat) :
    renderPieces insert template [
      .branch (.negation (Bundled.part "loop" "first")) [
          .text "\n"] [],
      .text "  // ",
      .output (Bundled.part "section" "title"),
      .text "\n",
      Bundled.each "prop" (Bundled.part "section" "props") [
          .branch (Bundled.part "prop" "description") [
              .text "  /** ",
              .output (Bundled.via "doc_comment" (Bundled.part "prop" "description")),
              .text " */\n"] [],
          .text "  ",
          .output (Bundled.via "prop_key" (Bundled.part "prop" "name")),
          .output (.choose (Bundled.part "prop" "required") (.text "") (some (.text "?")) 1),
          .text ": ",
          .output (Bundled.part "prop" "type"),
          .text ";\n"]] (("section", s.exposed) :: ("loop", turn i n) :: σ) =
        .ok ((if i = 0 then "" else "\n") ++ s.membersText) := by
  have later : eval template (("section", s.exposed) :: ("loop", turn i n) :: σ)
      (.negation (Bundled.part "loop" "first")) = .ok (.flag (!decide (i = 0))) := rfl
  have title : eval template (("section", s.exposed) :: ("loop", turn i n) :: σ)
      (Bundled.part "section" "title") = .ok (.text s.title) := rfl
  have props : eval template (("section", s.exposed) :: ("loop", turn i n) :: σ)
      (Bundled.part "section" "props") = .ok (.list (s.props.map PropSpec.exposed)) := rfl
  refine (renderPieces_cons
    (renderPiece_flag later (renderPieces_text _ renderPieces_nil) renderPieces_nil)
    (renderPieces_text _ (renderPieces_output title (renderPieces_text _ (renderPieces_cons
      (renderPiece_each props render_member) renderPieces_nil))))).trans ?_
  unfold PropSection.membersText
  by_cases first : i = 0 <;> simp only [first, decide_true, decide_false, Bool.not_true,
    Bool.not_false, Bool.false_eq_true, if_true, if_false, String.append_empty, String.append_assoc]

/-- **The interface by section**, which other templates insert. -/
theorem render_sectioned (ctx : lookup σ "ctx" = v.exposed) :
    renderPieces insert template Bundled.propsInterface σ =
      .ok (v.interfaceText v.sectionedMembers) := by
  have name : eval template σ (Bundled.view "component_name") = .ok (.text v.name) :=
    eval_view ctx rfl
  have sections : eval template σ (Bundled.view "prop_sections") =
      .ok (.list (v.sections.map PropSection.exposed)) := eval_view ctx rfl
  refine (renderPieces_text _ (renderPieces_output name (renderPieces_text _ (renderPieces_cons
    (renderPiece_between sections render_members) (renderPieces_text _ renderPieces_nil))))).trans ?_
  unfold interfaceText sectionedMembers
  simp only [String.append_empty, String.append_assoc]

/-- **The interface in one list**, in the types of a stored schema. -/
theorem render_declared (ctx : lookup σ "ctx" = v.exposed) :
    renderPieces insert template ((Bundled.schemaTypes.drop 4).take 5) σ =
      .ok (v.interfaceText v.declaredMembers) := by
  have name : eval template σ (Bundled.view "component_name") = .ok (.text v.name) :=
    eval_view ctx rfl
  have props : eval template σ (Bundled.view "props") =
      .ok (.list (v.props.map PropSpec.exposed)) := eval_view ctx rfl
  refine (renderPieces_text _ (renderPieces_output name (renderPieces_text _ (renderPieces_cons
    (renderPiece_each props render_member) (renderPieces_text _ renderPieces_nil))))).trans ?_
  unfold interfaceText declaredMembers
  simp only [String.append_empty, String.append_assoc]

/-- A template that inserts the interface has it in its text. -/
theorem render_inserted {g : Generator} {part : Part} {template : String} {pieces : List Piece}
    (named : part.template g.framework = template)
    (found : Template.library none template = .ok pieces)
    (mem : .insert "shared/props_interface.ts.j2" ∈ pieces) :
    ∃ front back, g.render (Template.library none) part =
      .ok (front ++ g.view.interfaceText g.view.sectionedMembers ++ back) := by
  have inner : Template.library none "shared/props_interface.ts.j2" = .ok Bundled.propsInterface :=
    rfl
  have inserted : renderPiece (Template.render (Template.library none) 199) template
      (.insert "shared/props_interface.ts.j2") g.scope =
        .ok (g.view.interfaceText g.view.sectionedMembers) := by
    rw [renderPiece, Template.render, inner]
    exact render_sectioned rfl
  exact render_of_mem named found mem inserted

/-- **Every description stays in its comment.** The comment of a description has no line feed, and the
mark that ends a comment is nowhere in it but at its end; so a comment is read up to there, whatever
follows it. The interfaces of the props are made of such comments: by section in the types and in the
component for Next.js, and as the props are declared in the types of a stored schema. -/
theorem descriptions_end_once :
    (∀ d : String,
      '\n' ∉ (descriptionComment d).toList ∧
      (∃ front, ∀ before after, (descriptionComment d).toList = before ++ Text.commentEnd ++ after ↔
        before = front ∧ after = []) ∧
      ∀ rest, TypeScript.commentLength ((descriptionComment d).toList ++ rest) =
        (descriptionComment d).length) ∧
    ∀ v : ComponentView,
      (∀ framework, ∃ front back, Generator.render ⟨framework, v⟩ (Template.library none) .types =
        .ok (front ++ v.interfaceText v.sectionedMembers ++ back)) ∧
      (∃ front back, Generator.render ⟨.nextjs, v⟩ (Template.library none) .component =
        .ok (front ++ v.interfaceText v.sectionedMembers ++ back)) ∧
      ∀ framework, ∃ front back,
        Generator.render ⟨framework, v⟩ (Template.library none) .schemaTypes =
          .ok (front ++ v.interfaceText v.declaredMembers ++ back) := by
  refine ⟨fun d => ⟨?line, ?once, commentLength_descriptionComment d⟩, fun v => ⟨?types, ?component,
    ?stored⟩⟩
  case line =>
    rw [toList_descriptionComment]
    simpa [Text.commentEnd] using Text.notMem_inComment d.toList
  case once =>
    have front : ¬ Text.commentEnd <:+:
        '/' :: '*' :: '*' :: ' ' :: (Text.inComment d.toList ++ [' ']) := by
      simpa [Text.commentEnd_infix_cons] using descriptionComment_front d
    rw [toList_descriptionComment]
    exact ⟨_, fun before after => Text.append_commentEnd_eq_iff front⟩
  case types =>
    intro framework
    have found : Template.library none "shared/types.ts.j2" = .ok Bundled.types := rfl
    have mem : .insert "shared/props_interface.ts.j2" ∈ Bundled.types :=
      List.mem_of_getElem? (i := 4) rfl
    exact render_inserted (g := ⟨framework, v⟩) rfl found mem
  case component =>
    have name : Part.component.template .nextjs = "nextjs/component.tsx.j2" := by decide
    have found : Template.library none "nextjs/component.tsx.j2" = .ok Bundled.reactComponent := rfl
    have mem : .insert "shared/props_interface.ts.j2" ∈ Bundled.reactComponent :=
      List.mem_of_getElem? (i := 14) rfl
    exact render_inserted (g := ⟨.nextjs, v⟩) name found mem
  case stored =>
    intro framework
    have found : Template.library none "shared/schema_types.ts.j2" = .ok Bundled.schemaTypes := rfl
    have among : (Bundled.schemaTypes.drop 4).take 5 <:+: Bundled.schemaTypes :=
      (List.take_prefix 5 _).isInfix.trans (List.drop_suffix 4 _).isInfix
    have name : Part.schemaTypes.template framework = "shared/schema_types.ts.j2" := rfl
    exact render_of_isInfix (g := ⟨framework, v⟩) name found among (render_declared rfl)

end ComponentView

end PropForge
