import PropForge.Proofs.Component.Text
import PropForge.Proofs.Component.View

/-!
# What the tables decide in a component's file

The tables by which props are classified enter a view in two places, the names of boolean props and
the modifiers that these switch. Templates that look at neither give the same text under all tables:

* `ofSchema_reclassified`: views under different tables differ nowhere else;
* `alike_reclassified`: what their scopes differ in;
* `render_component_iff`: when the bundled templates give the same component.
-/

namespace PropForge

/-- The line of a modifier in a component for Next.js. -/
def Modifier.line (m : Modifier) : String :=
  "    " ++ (m.localName ++ (" && styles.modifiers." ++ (m.modifier ++ ",\n")))

/-- The lines of modifiers in a component for Next.js. -/
def Modifier.lines (modifiers : List Modifier) : String := String.join (modifiers.map line)

namespace ComponentView

variable {tables : Classification} {schema : Schema} {v : ComponentView}

/-- The view as other tables give it. -/
def reclassified (tables : Classification) (v : ComponentView) : ComponentView :=
  let boolean := (v.props.map (·.name)).filter tables.isBooleanName
  { v with
    patterns := { v.patterns with boolean }
    modifiers := boolean.map (modifierOf tables) }

/-- The modifiers that tables read off the names of props. -/
def modifiersOf (tables : Classification) (props : List PropSpec) : List Modifier :=
  ((props.map (·.name)).filter tables.isBooleanName).map (modifierOf tables)

/-- Views of a schema under different tables differ only as the tables do. -/
theorem ofSchema_reclassified (h : ofSchema tables schema = .ok v) (other : Classification) :
    ofSchema other schema = .ok (v.reclassified other) := by
  unfold ofSchema at *
  dsimp only at *
  split at h
  · cases h
  · cases h
    rename_i identifier
    rw [if_neg identifier]
    rfl

theorem modifiers_of_ofSchema (h : ofSchema tables schema = .ok v) :
    v.props = schema.contract.props ∧ v.modifiers = modifiersOf tables schema.contract.props := by
  have shows := shows_of_ofSchema h
  refine ⟨shows.props, ?_⟩
  rw [shows.modifiers, shows.patterns]
  rfl

/-- Tables that read the same prefixes off the props give the same view. -/
theorem reclassified_eq_self (h : ofSchema tables schema = .ok v) {other : Classification}
    (same : ∀ p ∈ v.props, other.booleanPrefix? p.name = tables.booleanPrefix? p.name) :
    v.reclassified other = v := by
  have boolean : (v.props.map (·.name)).filter other.isBooleanName =
      (v.props.map (·.name)).filter tables.isBooleanName := by
    refine List.filter_congr fun n hn => ?_
    obtain ⟨p, hp, rfl⟩ := List.mem_map.mp hn
    rw [Classification.isBooleanName, Classification.isBooleanName, same p hp]
  have modifiers : ((v.props.map (·.name)).filter tables.isBooleanName).map (modifierOf other) =
      ((v.props.map (·.name)).filter tables.isBooleanName).map (modifierOf tables) := by
    refine List.map_congr_left fun n hn => ?_
    obtain ⟨p, hp, rfl⟩ := List.mem_map.mp (List.mem_filter.mp hn).1
    simp only [modifierOf, Classification.stripBooleanPrefix, same p hp]
  have self := ofSchema_reclassified h tables
  rw [h] at self
  have again : v.reclassified tables = v := (Except.ok.inj self).symm
  rw [← again]
  unfold reclassified
  dsimp only
  rw [boolean, modifiers]

end ComponentView

namespace Generator

open Template

/-- What of a component is decided by the tables. -/
def tablePaths : List (List String) := [["ctx", "modifiers"], ["ctx", "patterns", "boolean"]]

/-- A field is found among those with other names than some that it does not have. -/
theorem find?_named_filter {names : List String} {name : String} (other : name ∉ names)
    (fields : List (String × Value)) :
    (fields.filter fun (n, _) => !names.contains n).find? (fun (n, _) => n = name) =
      fields.find? fun (n, _) => n = name := by
  rw [List.find?_filter]
  congr 1
  funext field
  by_cases same : field.1 = name
  · simp [same, other]
  · simp [same]

theorem field_record {type : String} {names : List String} {name : String} (other : name ∉ names)
    {fields fields' : List (String × Value)}
    (same : (fields.filter fun (n, _) => !names.contains n) =
      fields'.filter fun (n, _) => !names.contains n) :
    (Value.record type fields []).field name = (Value.record type fields' []).field name := by
  unfold Value.field
  dsimp only
  rw [List.append_nil, List.append_nil, ← find?_named_filter other fields, same,
    find?_named_filter other fields']
  rfl

theorem field_exposed (v : ComponentView) (tables : Classification) {name : String}
    (other : name ∉ ["modifiers", "patterns"]) :
    (v.reclassified tables).exposed.field name = v.exposed.field name :=
  field_record other rfl

theorem field_patterns (v : ComponentView) (tables : Classification) {name : String}
    (other : name ∉ ["boolean"]) :
    (v.reclassified tables).patterns.exposed.field name = v.patterns.exposed.field name :=
  field_record other rfl

/-- **Under other tables** the scope differs in what the tables decide. -/
theorem alike_reclassified (g : Generator) (tables : Classification) :
    Alike tablePaths { g with view := g.view.reclassified tables }.scope g.scope := by
  intro n names clear
  by_cases same : n = "ctx"
  · subst same
    cases names with
    | nil => cases clear
    | cons first rest =>
      change follow (g.view.reclassified tables).exposed (first :: rest) =
        follow g.view.exposed (first :: rest)
      by_cases patterns : first = "patterns"
      · subst patterns
        cases rest with
        | nil => cases clear
        | cons second rest =>
          have other : second ∉ ["boolean"] := by
            rw [List.mem_singleton]
            rintro rfl
            simp [isClear, tablePaths, overlap, List.isPrefixOf] at clear
          exact congrArg (follow · rest) (field_patterns g.view tables other)
      · have other : first ∉ ["modifiers", "patterns"] := by
          simp only [List.mem_cons, List.not_mem_nil, or_false, not_or]
          refine ⟨?_, patterns⟩
          rintro rfl
          simp [isClear, tablePaths, overlap, List.isPrefixOf] at clear
        exact congrArg (follow · rest) (field_exposed g.view tables other)
  · have away (ρ : Scope) (v : Value) : lookup (("ctx", v) :: ρ) n = lookup ρ n := by
      simp [lookup, Ne.symm same]
    unfold Generator.scope
    rw [away, away]

section Bundled

/-- The bundled templates that look at nothing that the tables decide. -/
def tableless : List String :=
  (Assoc.keys Bundled.table).filter (· ≠ "nextjs/component.tsx.j2")

theorem tableless_avoid : ∀ name ∈ tableless, ∀ pieces, Template.library none name = .ok pieces →
    piecesAvoid tablePaths tableless pieces = true := by
  have all : (tableless.all fun name =>
      (Template.library none name).toOption.all (piecesAvoid tablePaths tableless)) = true := by
    decide +kernel
  intro name mem pieces found
  have one := List.all_eq_true.mp all name mem
  rw [found] at one
  exact one

/-- The part of a component for Next.js that lists the modifiers. -/
def modifierLoop : Piece :=
  Bundled.each "modifier" (Bundled.view "modifiers") [
    .text "    ",
    .output (Bundled.part "modifier" "local"),
    .text " && styles.modifiers.",
    .output (Bundled.part "modifier" "modifier"),
    .text ",\n"]

variable {insert : String → Scope → Except Template.Error String} {template : String} {σ : Scope}

/-- The loop over the modifiers gives their lines. -/
theorem render_modifierLoop {v : ComponentView} (ctx : lookup σ "ctx" = v.exposed) :
    renderPiece insert template modifierLoop σ = .ok (Modifier.lines v.modifiers) := by
  have items : eval template σ (Bundled.view "modifiers") =
      .ok (.list (v.modifiers.map Modifier.exposed)) := by
    rw [Bundled.view, eval, eval, ctx]
    rfl
  exact renderPiece_each items fun _ _ => rfl

/-- A component for Next.js is the lines of the modifiers between two parts that the tables leave
alone. -/
theorem reactComponent_split : ∃ before after,
    Bundled.reactComponent = before ++ modifierLoop :: after ∧
      piecesAvoid tablePaths tableless before = true ∧
      piecesAvoid tablePaths tableless after = true :=
  ⟨Bundled.reactComponent.take 36, Bundled.reactComponent.drop 37, rfl, by decide,
    by decide⟩

/-- A component for Next.js: what comes before the lines of the modifiers, these, and the rest. -/
theorem render_reactComponent (v : ComponentView) {before after : List Piece}
    (split : Bundled.reactComponent = before ++ modifierLoop :: after) :
    Generator.render ⟨.nextjs, v⟩ (Template.library none) .component =
      let text (pieces : List Piece) :=
        renderPieces (Template.render (Template.library none) 199) "nextjs/component.tsx.j2" pieces
          (Generator.scope ⟨.nextjs, v⟩)
      text before >>= fun front => (front ++ ·) <$> ((Modifier.lines v.modifiers ++ ·) <$> text after) := by
  have name : Part.component.template .nextjs = "nextjs/component.tsx.j2" := by decide
  have rest : renderPieces (Template.render (Template.library none) 199) "nextjs/component.tsx.j2"
      (modifierLoop :: after) (Generator.scope ⟨.nextjs, v⟩) =
        (Modifier.lines v.modifiers ++ ·) <$> renderPieces (Template.render (Template.library none) 199)
          "nextjs/component.tsx.j2" after (Generator.scope ⟨.nextjs, v⟩) := by
    rw [renderPieces, render_modifierLoop rfl]
    rfl
  rw [Generator.render_eq_renderPieces name rfl, split]
  exact (renderPieces_append before (modifierLoop :: after)).trans (by rw [rest])

/-- **Under other tables** the bundled templates give the same component, but for the lines of the
modifiers if it is one for Next.js. -/
theorem render_component_iff {g : Generator} {tables : Classification} {t t' : String}
    (h : g.render (Template.library none) .component = .ok t)
    (h' : { g with view := g.view.reclassified tables }.render (Template.library none) .component =
      .ok t') :
    t' = t ↔
      (g.framework = .nextjs →
        Modifier.lines (g.view.reclassified tables).modifiers = Modifier.lines g.view.modifiers) := by
  have alike := alike_reclassified g tables
  obtain ⟨framework, v⟩ := g
  have other (name : String) (mem : name ∈ tableless) :
      Template.render (Template.library none) maxDepth name
          (Generator.scope ⟨framework, v.reclassified tables⟩) =
        Template.render (Template.library none) maxDepth name (Generator.scope ⟨framework, v⟩) :=
    render_alike tableless_avoid maxDepth name mem _ _ alike
  have plain (away : framework ≠ .nextjs)
      (mem : Part.component.template framework ∈ tableless) :
      t' = t ↔ (framework = .nextjs →
        Modifier.lines (v.reclassified tables).modifiers = Modifier.lines v.modifiers) := by
    have same := other _ mem
    rw [show Template.render _ _ _ _ = _ from h', show Template.render _ _ _ _ = _ from h] at same
    exact ⟨fun _ react => absurd react away, fun _ => Except.ok.inj same⟩
  cases framework with
  | vue => exact plain nofun (by decide)
  | svelte => exact plain nofun (by decide)
  | nextjs =>
    obtain ⟨before, after, split, hb, ha⟩ := reactComponent_split
    have inserts := render_alike tableless_avoid 199
    rw [render_reactComponent _ split] at h h'
    dsimp only at h h'
    rw [renderPieces_alike inserts alike before hb, renderPieces_alike inserts alike after ha] at h'
    obtain ⟨front, hf, h⟩ := exists_of_bind_eq_ok h
    obtain ⟨front', hf', h'⟩ := exists_of_bind_eq_ok h'
    obtain rfl := Except.ok.inj (hf.symm.trans hf')
    generalize renderPieces _ _ after _ = back at h h'
    cases back with
    | error e => cases h
    | ok back =>
      cases h
      cases h'
      rw [String.append_right_inj, String.append_left_inj]
      exact ⟨fun same _ => same, fun same => same rfl⟩

end Bundled

end Generator

end PropForge
