import PropForge.Template.Bundled.Frameworks
import PropForge.Template.Bundled.Shared
import PropForge.Template.Reader
import PropForge.Template.Render
import PropForge.Text.Utf8

/-!
Where templates come from: a directory of the project's own is searched before the bundled
templates, so that a project replaces single templates and keeps the others.
-/

namespace PropForge.Template

/-- The bundled templates by name. -/
def Bundled.table : List (String × List Piece) :=
  [("nextjs/component.tsx.j2", reactComponent),
    ("nextjs/config.js.j2", reactConfig),
    ("vue/component.vue.j2", vueComponent),
    ("vue/config.js.j2", vueConfig),
    ("svelte/component.svelte.j2", svelteComponent),
    ("svelte/config.js.j2", svelteConfig),
    ("shared/props_interface.ts.j2", propsInterface),
    ("shared/variant_types.ts.j2", variantTypes),
    ("shared/types.ts.j2", types),
    ("shared/schema_types.ts.j2", schemaTypes),
    ("shared/test.tsx.j2", tests),
    ("shared/stories.tsx.j2", stories),
    ("shared/docs.md.j2", documentation),
    ("shared/styles.module.css.j2", styles)]

/-- What the place of the bundled templates is called in messages. -/
def Bundled.directory : String := "<bundled>"

/-- A directory with templates: what it is called, and the text of the file at a path below it, if
there is such a file. -/
structure Directory where
  name : String
  file? : List String → Option (Except Text.ByteFault String)

/-- The path that a template's name spells. Names do not lead upwards. -/
def namePath? (name : String) : Option (List String) :=
  let names := (Text.splitOn (· = '/') name.toList).map String.ofList
  if names.contains ".." then none else some (names.filter fun n => n ≠ "" && n ≠ ".")

/-- The bundled template at a path. -/
def Bundled.at? (path : List String) : Option (List Piece) :=
  (table.find? fun (n, _) => n = "/".intercalate path).map (·.2)

/-- The template of a file's text. -/
def ofFile : Except Text.ByteFault String → Except Error (List Piece)
  | .ok text => parse text
  | .error f => .error (.undecodable f.message)

/-- The bundled templates, and before them those of a directory. -/
def library (directory : Option Directory) : Library := fun name =>
  let directories := (directory.map (·.name)).toList ++ [Bundled.directory]
  match namePath? name with
  | none => .error (.noTemplate name [])
  | some path =>
    match directory.bind (·.file? path) with
    | some file => ofFile file
    | none => match Bundled.at? path with
      | some pieces => .ok pieces
      | none => .error (.noTemplate name directories)

end PropForge.Template
