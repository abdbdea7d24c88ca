import PropForge.Classification.Overrides
import PropForge.File.Path
import PropForge.Text.Blank
import PropForge.Text.Case
import PropForge.Yaml.Meaning

/-!
A project's settings: what is generated and where, where routes are found, which templates replace
the bundled ones, and how props are classified. A setting of the wrong kind counts as none.
-/

namespace PropForge

/-- The name of the file with a project's settings. -/
def settingsFile : String := ".pfgen.yml"

/-- What a component's files are and where they go. -/
structure GenerateSettings where
  framework : String
  outputDir : Option Path
  includeTests : Bool
  includeStories : Bool
  includeTypes : Bool
  includeDocumentation : Bool
  includeConfig : Bool
  includeStyles : Bool
  deriving DecidableEq, Repr

def GenerateSettings.standard : GenerateSettings where
  framework := "nextjs"
  outputDir := none
  includeTests := true
  includeStories := true
  includeTypes := true
  includeDocumentation := true
  includeConfig := false
  includeStyles := false

/-- Where the pages of a site are, and where its navigation is kept. -/
structure RouteSettings where
  appDir : String
  manifestPath : String
  deriving DecidableEq, Repr

def RouteSettings.standard : RouteSettings := ⟨"src/app", "public/routes.json"⟩

structure Settings where
  /-- The directory of the settings file. -/
  root : Path
  generate : GenerateSettings
  routes : RouteSettings
  templatesDir : Option Path
  classification : Classification
  deriving DecidableEq, Repr

/-- The settings of a project without a settings file. -/
def Settings.standard (root : Path) : Settings where
  root
  generate := .standard
  routes := .standard
  templatesDir := none
  classification := .standard

/-- Why a settings file gives no settings. -/
inductive SettingsFault where
  | malformed
  | notMapping
  | unknownTable (key : String)
  deriving DecidableEq, Repr

def SettingsFault.message : SettingsFault → String
  | malformed => s!"Failed to parse {settingsFile}: {Yaml.Fault.malformed.message}"
  | notMapping => s!"{settingsFile} must contain a mapping at the root"
  | unknownTable key => (Classification.OverrideFault.unknownTable key).message

namespace Settings

/-- The entries of a setting that is a mapping. -/
def section? (name : String) (entries : List (Yaml × Yaml)) : List (Yaml × Yaml) :=
  match Yaml.entry? name entries with
  | some (.mapping es) => es
  | _ => []

/-- The text of a setting that is a text, a number or a truth value. -/
def asText : Yaml → Option String
  | .string s => some s
  | .bool b => some (Yaml.bool b).text
  | .integer n => some (Yaml.integer n).text
  | .real x => some (Yaml.real x).text
  | _ => none

/-- A setting's text, none if it is empty. -/
def text? (name : String) (entries : List (Yaml × Yaml)) : Option String :=
  ((Yaml.entry? name entries).bind asText).filter (· ≠ "")

/-- A truth value, or a word for one. -/
def asFlag : Yaml → Option Bool
  | .bool b => some b
  | .string s =>
    let word := Text.lower (String.ofList (Text.strip s.toList))
    if ["true", "yes", "1"].contains word then some true
    else if ["false", "no", "0"].contains word then some false
    else none
  | _ => none

def flag (name : String) (default : Bool) (entries : List (Yaml × Yaml)) : Bool :=
  ((Yaml.entry? name entries).bind asFlag).getD default

/-- The items of a table: a text is a table of one item, and what is no list is empty. -/
def asItems : Yaml → Yaml
  | .string s => .list [.string s]
  | .list items => .list items
  | .pair a b => .list [a, b]
  | .bytes bs => .list (bs.map fun b => .integer b.toNat)
  | _ => .list []

/-- An entry of the classification's tables. One of them is no list. -/
def tableEntry (entry : Yaml × Yaml) : Yaml × Yaml :=
  if entry.1.sameKey (.string "event_prefix") then entry else (entry.1, asItems entry.2)

def generateOf (root : Path) (entries : List (Yaml × Yaml)) : GenerateSettings :=
  let s := GenerateSettings.standard
  { framework := (text? "framework" entries).getD s.framework
    outputDir := (text? "output_dir" entries).map fun dir => root.join (.ofText dir)
    includeTests := flag "include_tests" s.includeTests entries
    includeStories := flag "include_stories" s.includeStories entries
    includeTypes := flag "include_types" s.includeTypes entries
    includeDocumentation := flag "include_documentation" s.includeDocumentation entries
    includeConfig := flag "include_config" s.includeConfig entries
    includeStyles := flag "include_styles" s.includeStyles entries }

def routesOf (entries : List (Yaml × Yaml)) : RouteSettings :=
  { appDir := (text? "app_dir" entries).getD RouteSettings.standard.appDir
    manifestPath := (text? "manifest_path" entries).getD RouteSettings.standard.manifestPath }

/-- The settings that a document's value states for a project. An empty value states none. -/
def ofYaml (root : Path) (v : Yaml) : Except SettingsFault Settings :=
  match v, v.truthy with
  | _, false => .ok (standard root)
  | .mapping entries, true =>
    match Classification.override ((section? "classification" entries).map tableEntry) with
    | .error (.unknownTable key) => .error (.unknownTable key)
    | .error (.notIterable kind) => .error (.unknownTable kind)
    | .ok classification => .ok {
        root
        generate := generateOf root (section? "generate" entries)
        routes := routesOf (section? "routes" entries)
        templatesDir := (text? "dir" (section? "templates" entries)).map fun dir =>
          root.join (.ofText dir)
        classification }
  | _, true => .error .notMapping

end Settings

end PropForge
