import PropForge.Proofs.Component.Literals
import PropForge.Proofs.Text.Cell

/-!
# The tables of the documentation

The documentation of a component has a table of its props and, if it has events, a table of these. The
texts of a row are written into its cells with each bar escaped and each end of a line as a space:

* `keepsCells_row_iff`: when a row has the columns it is meant to have;
* `render_propTable`, `render_eventTable`: the tables in the documentation of every component;
* `tables_keep_cells_iff`: when all rows have the columns of their header.
-/

namespace PropForge

open Template

section Rows

/-- The cells of a row with the given texts. -/
def rowCells (texts : List String) : List (List Char) := texts.map fun t => Text.inCell t.toList

/-- A text without bars and ends of lines stands in a cell as it is. -/
theorem cellText_of_plain {s : String} (plain : ∀ c ∈ s.toList, c ∉ ['|', '\r', '\n']) :
    cellText s = s := by
  have each : ∀ c ∈ s.toList, Text.cellChar c = [c] := by
    intro c hc
    have other := plain c hc
    unfold Text.cellChar
    split <;> simp_all
  rw [cellText, onChars, Text.inCell, List.flatMap_congr each, List.flatMap_singleton',
    String.ofList_toList]

/-- A row of a table. -/
def rowText (texts : List String) : String := String.ofList (Text.delimited (rowCells texts))

/-- The line below the header of a table. -/
def ruleText (header : List String) : String :=
  "|" ++ String.join (header.map fun t =>
    String.ofList (List.replicate (t.length + 2) '-') ++ "|")

/-- A table with a header. -/
def tableText (header : List String) (rows : List (List String)) : String :=
  rowText header ++ "\n" ++ ruleText header ++ "\n" ++
    String.join (rows.map fun texts => rowText texts ++ "\n")

/-- **A row keeps its cells** if and only if no bar of its texts is escaped already. -/
theorem keepsCells_row_iff (texts : List String) :
    Text.KeepsCells (rowCells texts) ↔ ∀ t ∈ texts, Text.Unescaped t.toList := by
  rw [Text.keepsCells_iff, rowCells, List.forall_mem_map]
  exact forall₂_congr fun t _ => Text.escaped_inCell_iff

/-- A row is one line. -/
theorem unbroken_row {texts : List String} {c : Char} (h : c ∈ (rowText texts).toList) :
    c ≠ '\n' ∧ c ≠ '\r' := by
  rw [rowText, String.toList_ofList, Text.delimited, List.mem_cons] at h
  rcases h with rfl | mem
  · decide
  · obtain ⟨cell, written, mem⟩ := List.mem_flatMap.mp mem
    obtain ⟨text, -, rfl⟩ := List.mem_map.mp written
    rw [List.mem_cons, List.mem_append, List.mem_cons, List.mem_singleton] at mem
    rcases mem with rfl | inside | rfl | rfl
    · decide
    · exact Text.unbroken_inCell inside
    · decide
    · decide

end Rows

/-- What the documentation says of a prop. -/
def PropSpec.documented (p : PropSpec) : List String :=
  let description := p.description.getD ""
  [p.name, p.type, if p.required then "Yes" else "No",
    if description = "" then "No description" else description]

/-- What the documentation says of an event. -/
def EventSpec.documented (e : EventSpec) : List String :=
  [e.name, e.signature, if e.inherited then "Inherited from React.HTMLProps" else "Custom event"]

def propHeader : List String := ["Name", "Type", "Required", "Description"]

def eventHeader : List String := ["Name", "Signature", "Description"]

namespace Template

/-- A text, or another one if there is none or an empty one. -/
theorem eval_described {template : String} {σ : Scope} {e : Expr} {description : Option String}
    {other : String} (given : eval template σ e = .ok (.ofOption description)) :
    eval template σ (.either e (.text other)) =
      .ok (.text (if description.getD "" = "" then other else description.getD "")) := by
  rw [eval, given]
  cases description with
  | none => rfl
  | some text =>
    by_cases empty : text = ""
    · subst empty
      rfl
    · simp [Value.ofOption, Value.truthy, empty, bind, Except.bind, pure, Except.pure]

end Template

namespace ComponentView

variable {v : ComponentView} {insert : String → Scope → Except Template.Error String}
  {template : String} {σ : Scope}

theorem render_propRow (p : PropSpec) (turn : Value) :
    renderPieces insert template [
      .text "| ",
      .output (Bundled.via "md_cell" (Bundled.part "prop" "name")),
      .text " | ",
      .output (Bundled.via "md_cell" (Bundled.part "prop" "type")),
      .text " | ",
      .output (.choose (Bundled.part "prop" "required") (.text "Yes") (some (.text "No")) 1),
      .text " | ",
      .output (Bundled.via "md_cell"
        (.either (Bundled.part "prop" "description") (.text "No description"))),
      .text " |\n"] (("prop", p.exposed) :: ("loop", turn) :: σ) =
        .ok (rowText p.documented ++ "\n") := by
  have name : eval template (("prop", p.exposed) :: ("loop", turn) :: σ)
      (Bundled.via "md_cell" (Bundled.part "prop" "name")) = .ok (.text (cellText p.name)) := rfl
  have type : eval template (("prop", p.exposed) :: ("loop", turn) :: σ)
      (Bundled.via "md_cell" (Bundled.part "prop" "type")) = .ok (.text (cellText p.type)) := rfl
  have required : eval template (("prop", p.exposed) :: ("loop", turn) :: σ)
      (.choose (Bundled.part "prop" "required") (.text "Yes") (some (.text "No")) 1) =
        .ok (.text (cellText (if p.required then "Yes" else "No"))) := by
    have same : cellText (if p.required then "Yes" else "No") = if p.required then "Yes" else "No" := by
      cases p.required <;> exact cellText_of_plain (by simp)
    rw [same]
    exact eval_flagged rfl "Yes" "No"
  have description : eval template (("prop", p.exposed) :: ("loop", turn) :: σ)
      (Bundled.via "md_cell"
        (.either (Bundled.part "prop" "description") (.text "No description"))) =
          .ok (.text (cellText (if p.description.getD "" = "" then "No description"
            else p.description.getD ""))) := by
    have given : eval template (("prop", p.exposed) :: ("loop", turn) :: σ)
        (Bundled.part "prop" "description") = .ok (.ofOption p.description) := rfl
    rw [Bundled.via, eval, eval_described given]
    rfl
  refine (renderPieces_text _ (renderPieces_output name (renderPieces_text _
    (renderPieces_output type (renderPieces_text _ (renderPieces_output required
      (renderPieces_text _ (renderPieces_output description (renderPieces_text _
        renderPieces_nil))))))))).trans (congrArg Except.ok ?_)
  rw [← String.toList_inj]
  simp [rowText, rowCells, Text.delimited, PropSpec.documented, cellText, onChars]

theorem render_eventRow (e : EventSpec) (turn : Value) :
    renderPieces insert template [
      .text "| ",
      .output (Bundled.via "md_cell" (Bundled.part "event" "name")),
      .text " | ",
      .output (Bundled.via "md_cell" (Bundled.part "event" "signature")),
      .text " | ",
      .output (.choose (Bundled.part "event" "inherited") (.text "Inherited from React.HTMLProps")
        (some (.text "Custom event")) 1),
      .text " |\n"] (("event", e.exposed) :: ("loop", turn) :: σ) =
        .ok (rowText e.documented ++ "\n") := by
  have name : eval template (("event", e.exposed) :: ("loop", turn) :: σ)
      (Bundled.via "md_cell" (Bundled.part "event" "name")) = .ok (.text (cellText e.name)) := rfl
  have signature : eval template (("event", e.exposed) :: ("loop", turn) :: σ)
      (Bundled.via "md_cell" (Bundled.part "event" "signature")) =
        .ok (.text (cellText e.signature)) := rfl
  have inherited : eval template (("event", e.exposed) :: ("loop", turn) :: σ)
      (.choose (Bundled.part "event" "inherited") (.text "Inherited from React.HTMLProps")
        (some (.text "Custom event")) 1) =
          .ok (.text (cellText (if e.inherited then "Inherited from React.HTMLProps"
            else "Custom event"))) := by
    have same : cellText (if e.inherited then "Inherited from React.HTMLProps" else "Custom event") =
        if e.inherited then "Inherited from React.HTMLProps" else "Custom event" := by
      cases e.inherited <;> exact cellText_of_plain (by simp)
    rw [same]
    exact eval_flagged rfl "Inherited from React.HTMLProps" "Custom event"
  refine (renderPieces_text _ (renderPieces_output name (renderPieces_text _
    (renderPieces_output signature (renderPieces_text _ (renderPieces_output inherited
      (renderPieces_text _ renderPieces_nil))))))).trans (congrArg Except.ok ?_)
  rw [← String.toList_inj]
  simp [rowText, rowCells, Text.delimited, EventSpec.documented, cellText, onChars]

/-- **The table of the props.** -/
theorem render_propTable (v : ComponentView) (framework : Framework) :
    ∃ front back, Generator.render ⟨framework, v⟩ (Template.library none) .documentation =
      .ok (front ++ tableText propHeader (v.props.map PropSpec.documented) ++ back) := by
  have name : Part.documentation.template framework = "shared/docs.md.j2" := rfl
  have found : Template.library none "shared/docs.md.j2" = .ok Bundled.documentation := rfl
  have among : (Bundled.documentation.drop 12).take 3 <:+: Bundled.documentation :=
    (List.take_prefix 3 _).isInfix.trans (List.drop_suffix 12 _).isInfix
  have props : eval "shared/docs.md.j2" (Generator.scope ⟨framework, v⟩) (Bundled.view "props") =
      .ok (.list (v.props.map PropSpec.exposed)) := eval_view rfl rfl
  refine render_of_isInfix name found among ((renderPieces_text _ (renderPieces_text _
    (renderPieces_cons (renderPiece_each props render_propRow) renderPieces_nil))).trans
      (congrArg Except.ok ?_))
  have header : "| Name | Type | Required | Description |\n" = rowText propHeader ++ "\n" := by
    rw [← String.toList_inj]
    simp [rowText, rowCells, propHeader, Text.delimited, Text.inCell, Text.cellChar]
  have rule : "|------|------|----------|-------------|\n" = ruleText propHeader ++ "\n" := by
    rw [← String.toList_inj]
    simp [ruleText, propHeader, ← String.length_toList, List.replicate]
  rw [header, rule]
  simp only [tableText, List.map_map, Function.comp_def, String.append_empty, String.append_assoc]

/-- **The table of the events**, if there are any. -/
theorem render_eventTable (v : ComponentView) (framework : Framework) :
    ∃ front back, Generator.render ⟨framework, v⟩ (Template.library none) .documentation =
      .ok (front ++ (if v.events.isEmpty then "" else
        "\n" ++ "## Events\n" ++ "\n" ++
          tableText eventHeader (v.events.map EventSpec.documented)) ++ back) := by
  have name : Part.documentation.template framework = "shared/docs.md.j2" := rfl
  have found : Template.library none "shared/docs.md.j2" = .ok Bundled.documentation := rfl
  have mem : Bundled.documentation[16] ∈ Bundled.documentation := List.getElem_mem _
  have events : eval "shared/docs.md.j2" (Generator.scope ⟨framework, v⟩) (Bundled.view "events") =
      .ok (.list (v.events.map EventSpec.exposed)) := eval_view rfl rfl
  refine render_of_mem name found mem (renderPiece_listed events ((renderPieces_text _
    (renderPieces_text _ (renderPieces_text _ (renderPieces_text _ (renderPieces_text _
      (renderPieces_cons (renderPiece_each events render_eventRow) renderPieces_nil)))))).trans
        (congrArg Except.ok ?_)))
  have header : "| Name | Signature | Description |\n" = rowText eventHeader ++ "\n" := by
    rw [← String.toList_inj]
    simp [rowText, rowCells, eventHeader, Text.delimited, Text.inCell, Text.cellChar]
  have rule : "|------|-----------|-------------|\n" = ruleText eventHeader ++ "\n" := by
    rw [← String.toList_inj]
    simp [ruleText, eventHeader, ← String.length_toList, List.replicate]
  rw [header, rule]
  simp only [tableText, List.map_map, Function.comp_def, String.append_empty, String.append_assoc]

/-- The row of a prop keeps its cells if and only if no bar of the prop's own texts is escaped. -/
theorem keepsCells_prop_iff (p : PropSpec) : Text.KeepsCells (rowCells p.documented) ↔
    Text.Unescaped p.name.toList ∧ Text.Unescaped p.type.toList ∧
      ∀ d, p.description = some d → Text.Unescaped d.toList := by
  have required : Text.Unescaped (if p.required then "Yes" else "No").toList := by
    apply Text.unescaped_of_notMem
    cases p.required <;> decide
  have description : Text.Unescaped (if p.description.getD "" = "" then "No description"
      else p.description.getD "").toList ↔
        ∀ d, p.description = some d → Text.Unescaped d.toList := by
    have absent : Text.Unescaped "No description".toList := Text.unescaped_of_notMem (by decide)
    have bare : Text.Unescaped "".toList := Text.unescaped_of_notMem (by decide)
    cases p.description with
    | none => exact iff_of_true absent fun d none => nomatch none
    | some text =>
      rw [Option.getD_some]
      split
      · rename_i empty
        subst empty
        exact iff_of_true absent fun d same => Option.some.inj same ▸ bare
      · exact ⟨fun plain d same => Option.some.inj same ▸ plain, fun plain => plain text rfl⟩
  rw [keepsCells_row_iff]
  simp only [PropSpec.documented, List.forall_mem_cons, List.not_mem_nil, false_implies,
    implies_true, required, description, true_and, and_true]

/-- The row of an event keeps its cells if and only if no bar of its name or signature is escaped. -/
theorem keepsCells_event_iff (e : EventSpec) : Text.KeepsCells (rowCells e.documented) ↔
    Text.Unescaped e.name.toList ∧ Text.Unescaped e.signature.toList := by
  have inherited : Text.Unescaped (if e.inherited then "Inherited from React.HTMLProps"
      else "Custom event").toList := by
    apply Text.unescaped_of_notMem
    cases e.inherited <;> simp
  rw [keepsCells_row_iff]
  simp only [EventSpec.documented, List.forall_mem_cons, List.not_mem_nil, false_implies,
    implies_true, inherited, and_true]

/-- **The columns of the tables.** The documentation of a component has the table of its props and, if
there are events, the table of these. Every row of them is one line, with as many cells as the header.
The row of a prop has the columns of the header, and so every bar in its cells is behind an odd number
of backslashes, if and only if every bar in the prop's name, type and description is behind an even
number of them; and the row of an event if and only if this is so for its name and signature. -/
theorem tables_keep_cells_iff {tables : Classification} {schema : Schema} {v : ComponentView}
    (h : ofSchema tables schema = .ok v) :
    (∀ framework,
      (∃ front back, Generator.render ⟨framework, v⟩ (Template.library none) .documentation =
        .ok (front ++ tableText propHeader (schema.contract.props.map PropSpec.documented) ++
          back)) ∧
      ∃ front back, Generator.render ⟨framework, v⟩ (Template.library none) .documentation =
        .ok (front ++ (if schema.contract.events.isEmpty then "" else
          "\n" ++ "## Events\n" ++ "\n" ++
            tableText eventHeader (schema.contract.events.map EventSpec.documented)) ++ back)) ∧
    Text.KeepsCells (rowCells propHeader) ∧ Text.KeepsCells (rowCells eventHeader) ∧
    (∀ p ∈ schema.contract.props,
      (rowCells p.documented).length = (rowCells propHeader).length ∧
      (∀ c ∈ (rowText p.documented).toList, c ≠ '\n' ∧ c ≠ '\r') ∧
      (Text.KeepsCells (rowCells p.documented) ↔
        Text.Unescaped p.name.toList ∧ Text.Unescaped p.type.toList ∧
          ∀ d, p.description = some d → Text.Unescaped d.toList)) ∧
    ∀ e ∈ schema.contract.events,
      (rowCells e.documented).length = (rowCells eventHeader).length ∧
      (∀ c ∈ (rowText e.documented).toList, c ≠ '\n' ∧ c ≠ '\r') ∧
      (Text.KeepsCells (rowCells e.documented) ↔
        Text.Unescaped e.name.toList ∧ Text.Unescaped e.signature.toList) := by
  have header (texts : List String) (plain : ∀ t ∈ texts, '|' ∉ t.toList) :
      Text.KeepsCells (rowCells texts) :=
    (keepsCells_row_iff texts).mpr fun t ht => Text.unescaped_of_notMem (plain t ht)
  refine ⟨fun framework => ⟨?props, ?events⟩, header _ (by decide), header _ (by decide), ?prop,
    ?event⟩
  case props =>
    rw [← (shows_of_ofSchema h).props]
    exact v.render_propTable framework
  case events =>
    rw [← events_eq_of_ofSchema h]
    exact v.render_eventTable framework
  case prop => exact fun p _ => ⟨rfl, fun c => unbroken_row, keepsCells_prop_iff p⟩
  case event => exact fun e _ => ⟨rfl, fun c => unbroken_row, keepsCells_event_iff e⟩

/-- A component with a prop whose type has a bar behind a backslash. -/
def piped : Schema where
  contract := {
    componentName := "Tag"
    props := [⟨"sep", "\"a\\|b\"", false, "core", none⟩]
    events := [], variants := [], slots := [], accessibility := [], description := none }
  implementation := {
    type := "functional", forwardRef := false, refs := [], context := [], imports := [], hooks := [] }
  state := { localState := [], contextState := [], effects := [], derivedState := [] }
  provenance := ⟨"Tag.tsx", ⟨2024, 1, 2, 3, 4, 5, 0, none⟩, ⟨[], []⟩, schemaVersion⟩

theorem tables_keep_cells_iff_piped :
    ∃ v p, ofSchema .standard piped = .ok v ∧ piped.contract.props = [p] ∧
      rowText p.documented = "| sep | \"a\\\\|b\" | No | No description |" ∧
      ¬ Text.KeepsCells (rowCells p.documented) := by
  have made : ∃ v, ofSchema .standard piped = .ok v := by
    cases h : ofSchema .standard piped with
    | ok v => exact ⟨v, rfl⟩
    | error r => exact absurd (ofSchema_eq_error_iff.mp h).1 (by decide)
  have row : rowText (PropSpec.documented ⟨"sep", "\"a\\|b\"", false, "core", none⟩) =
      "| sep | \"a\\\\|b\" | No | No description |" := by
    rw [← String.toList_inj]
    simp [rowText, rowCells, PropSpec.documented, Text.delimited, Text.inCell, Text.cellChar]
  obtain ⟨v, h⟩ := made
  refine ⟨v, _, h, rfl, row, ?_⟩
  intro keeps
  obtain ⟨-, -, -, rows, -⟩ := tables_keep_cells_iff h
  obtain ⟨-, type, -⟩ := (rows _ List.mem_cons_self).2.2.mp keeps
  have one : Even 1 := type ['"', 'a', '\\'] (by decide)
  exact absurd one (by decide)

end ComponentView

end PropForge
