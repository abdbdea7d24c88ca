import Mathlib.Logic.Relation
import PropForge.Proofs.Template.Shape

/-!
# Templates that are inserted

What a template becomes depends on its own pieces and on those of the templates that it inserts,
directly or through others. A directory with other templates changes nothing:

* `Piece.inserted`: the templates that a piece names, in any branch of it;
* `Reaches`: a template inserts another one, or is that one itself;
* `renderPieces_congr`, `render_congr`: libraries that agree on what is reached give the same text;
* `mem_of_reaches`, `isClosed_bundled`: bundled templates reach bundled ones only;
* `render_eq_bundled`: a part is the same with a directory that has no file for what it reaches.
-/

namespace PropForge

namespace Template

mutual

/-- The templates that a piece inserts, in any branch and in any turn of a loop. -/
def Piece.inserted (piece : Piece) : List String :=
  match piece with
  | .text _ => []
  | .output _ => []
  | .branch _ yes no => insertedBy yes ++ insertedBy no
  | .loop _ _ _ body otherwise => insertedBy body ++ insertedBy otherwise
  | .insert name => [name]

def insertedBy (pieces : List Piece) : List String :=
  match pieces with
  | [] => []
  | piece :: rest => piece.inserted ++ insertedBy rest

end

/-- A template of a library names another one. -/
def Inserts (library : Library) (name other : String) : Prop :=
  ∃ pieces, library name = .ok pieces ∧ other ∈ insertedBy pieces

/-- What is rendered with a template: the template itself, and what it inserts directly or through
others. -/
def Reaches (library : Library) : String → String → Prop :=
  Relation.ReflTransGen (Inserts library)

section Congruence

variable {insert insert' : String → Scope → Except Error String} {template : String}

mutual

/-- A piece depends on the templates that it names and on no others. -/
theorem renderPiece_congr (piece : Piece)
    (agree : ∀ name ∈ piece.inserted, ∀ σ, insert name σ = insert' name σ) (σ : Scope) :
    renderPiece insert template piece σ = renderPiece insert' template piece σ := by
  cases piece with
  | text s => rfl
  | output e => rfl
  | branch test yes no =>
    rw [Piece.inserted, List.forall_mem_append] at agree
    rw [renderPiece, renderPiece, renderPieces_congr yes agree.1, renderPieces_congr no agree.2]
  | loop target items test body otherwise =>
    rw [Piece.inserted, List.forall_mem_append] at agree
    have turns : renderPieces insert template body = renderPieces insert' template body :=
      funext (renderPieces_congr body agree.1)
    rw [renderPiece, renderPiece, turns, renderPieces_congr otherwise agree.2]
  | insert name => exact agree name (List.mem_singleton.mpr rfl) σ

theorem renderPieces_congr (pieces : List Piece)
    (agree : ∀ name ∈ insertedBy pieces, ∀ σ, insert name σ = insert' name σ) (σ : Scope) :
    renderPieces insert template pieces σ = renderPieces insert' template pieces σ := by
  cases pieces with
  | nil => rfl
  | cons piece rest =>
    rw [insertedBy, List.forall_mem_append] at agree
    rw [renderPieces, renderPieces, renderPiece_congr piece agree.1, renderPieces_congr rest agree.2]

end

/-- **Libraries that agree** on what a template reaches give the same text for it. -/
theorem render_congr {library library' : Library} {start : String}
    (agree : ∀ name, Reaches library start name → library name = library' name) (depth : Nat)
    (σ : Scope) : render library depth start σ = render library' depth start σ := by
  induction depth generalizing start σ with
  | zero => rfl
  | succ depth ih =>
    rw [render, render, ← agree start .refl]
    cases found : library start with
    | error e => rfl
    | ok pieces =>
      apply renderPieces_congr
      intro name mem σ
      apply ih
      intro other reached
      exact agree other (.head ⟨pieces, found, mem⟩ reached)

end Congruence

section Bundled

/-- Whether the templates of some names insert none but these. -/
def isClosed (library : Library) (names : List String) : Bool :=
  names.all fun name =>
    (library name).toOption.all fun pieces => (insertedBy pieces).all names.contains

/-- What inserts nothing else has all that is reached from it. -/
theorem mem_of_reaches {library : Library} {names : List String} {start name : String}
    (closed : isClosed library names = true) (mem : start ∈ names)
    (reached : Reaches library start name) : name ∈ names := by
  induction reached with
  | refl => exact mem
  | tail _ step ih =>
    obtain ⟨pieces, found, inserted⟩ := step
    have one := List.all_eq_true.mp closed _ ih
    rw [found] at one
    exact List.contains_iff_mem.mp (List.all_eq_true.mp one _ inserted)

theorem isClosed_bundled : isClosed (library none) (Assoc.keys Bundled.table) = true := by
  decide +kernel

/-- Which files a directory may not have can be checked one after the other. -/
theorem absent_of_isClosed {library : Library} {names : List String} {start : String}
    {directory : Directory} (closed : isClosed library names = true) (mem : start ∈ names)
    (free : names.all (fun name => (namePath? name).all fun path =>
      (directory.file? path).isNone) = true) (name : String)
    (reached : Reaches library start name) (path : List String) (named : namePath? name = some path) :
    directory.file? path = none := by
  have one := List.all_eq_true.mp free name (mem_of_reaches closed mem reached)
  rw [named] at one
  exact Option.isNone_iff_eq_none.mp one

/-- A bundled template stays in force if a directory has no file for it. -/
theorem library_of_absent {directory : Directory} {name : String}
    (mem : name ∈ Assoc.keys Bundled.table)
    (absent : ∀ path, namePath? name = some path → directory.file? path = none) :
    library (some directory) name = library none name := by
  have there : ∀ n ∈ Assoc.keys Bundled.table,
      ((namePath? n).bind Bundled.at?).isSome = true := by
    decide +kernel
  obtain ⟨pieces, found⟩ := Option.isSome_iff_exists.mp (there name mem)
  obtain ⟨path, named, found⟩ := Option.bind_eq_some_iff.mp found
  simp [library, named, absent path named, found]

end Bundled

end Template

namespace Generator

open Template

/-- **A directory with other templates** changes no part. If it has no file for the template of a part
nor for any that this one inserts, directly or through others, the part is what the bundled templates
make of it, whatever other files the directory has. -/
theorem render_eq_bundled (g : Generator) (part : Part) (directory : Directory)
    (absent : ∀ name, Reaches (Template.library none) (part.template g.framework) name →
      ∀ path, namePath? name = some path → directory.file? path = none) :
    g.render (Template.library (some directory)) part = g.render (Template.library none) part ∧
      ∃ text, g.render (Template.library none) part = .ok text := by
  refine ⟨?_, g.render_bundled part⟩
  rw [Generator.render, Generator.render]
  symm
  apply render_congr
  intro name reached
  symm
  apply library_of_absent
  · exact mem_of_reaches isClosed_bundled (template_mem_bundled g.framework part) reached
  · exact absent name reached

/-- A directory with a template of its own for the types, and with one that cannot be read. -/
def restyled : Directory where
  name := "custom"
  file? path :=
    if path = ["shared", "types.ts.j2"] then
      some (.ok "export type \x7b\x7b ctx.component_name \x7d\x7dProps = never;\n")
    else if path = ["vue", "component.vue.j2"] then some (.ok "\x7b% if")
    else none

/-- A component with a variant, whose type is inserted. -/
def badge : Schema where
  contract := {
    componentName := "Badge"
    props := [⟨"tone", "BadgeTone", false, "styling", none⟩]
    events := [], slots := [], accessibility := [], description := none
    variants := [⟨"BadgeTone", ["calm", "loud"], "enum"⟩] }
  implementation := {
    type := "functional", forwardRef := false, refs := [], context := [], imports := [], hooks := [] }
  state := { localState := [], contextState := [], effects := [], derivedState := [] }
  provenance := ⟨"Badge.tsx", ⟨2024, 1, 2, 3, 4, 5, 0, none⟩, ⟨[], []⟩, schemaVersion⟩

/-- The component stays, while the types become what the directory makes of them. -/
theorem render_eq_bundled_restyled :
    ∃ g, Generator.make .standard "nextjs" badge = .ok g ∧
      g.render (Template.library (some restyled)) .component =
        g.render (Template.library none) .component ∧
      (g.render (Template.library (some restyled)) .types).toOption =
        some "export type BadgeProps = never;\n" := by
  have types : (Generator.make .standard "nextjs" badge).toOption.bind (fun g =>
      (g.render (Template.library (some restyled)) .types).toOption) =
        some "export type BadgeProps = never;\n" := by decide +kernel
  have chosen : (Generator.make .standard "nextjs" badge).toOption.map (·.framework) =
      some .nextjs := by decide +kernel
  cases made : Generator.make .standard "nextjs" badge with
  | error r =>
    rw [made] at chosen
    cases chosen
  | ok g =>
    rw [made] at types chosen
    have react : g.framework = .nextjs := Option.some.inj chosen
    have start : Part.component.template g.framework = "nextjs/component.tsx.j2" := by
      rw [react]
      decide
    have closed : isClosed (Template.library none) ["nextjs/component.tsx.j2",
        "shared/props_interface.ts.j2", "shared/variant_types.ts.j2"] = true := by decide +kernel
    refine ⟨g, rfl, (render_eq_bundled g .component restyled ?absent).1, types⟩
    rw [start]
    apply absent_of_isClosed closed
    · exact List.mem_cons_self
    · decide +kernel

end Generator

end PropForge
