import PropForge.Component.Exposed
import PropForge.Template.Library

/-!
The files generated from a component: which parts there are, from which templates they come, and
what the files of a framework are called.
-/

namespace PropForge

/-- The frameworks that files are generated for. -/
inductive Framework where
  | nextjs | vue | svelte
  deriving DecidableEq, Repr

namespace Framework

def all : List Framework := [nextjs, vue, svelte]

/-- The name by which a framework is chosen. -/
def name : Framework → String
  | nextjs => "nextjs"
  | vue => "vue"
  | svelte => "svelte"

/-- The name as it is written in documents. -/
def label : Framework → String
  | nextjs => "Next.js"
  | vue => "Vue"
  | svelte => "Svelte"

/-- The extension of a component's file. -/
def fileExtension : Framework → String
  | nextjs => "tsx"
  | vue => "vue"
  | svelte => "svelte"

/-- The file with the settings of a project. -/
def configFile : Framework → String
  | nextjs => "next.config.js"
  | vue => "vue.config.js"
  | svelte => "svelte.config.js"

def ofName? (name : String) : Option Framework := all.find? fun f => f.name = name

end Framework

/-- What is generated from a component. -/
inductive Part where
  | component | types | tests | stories | documentation | config | styles | schemaTypes
  deriving DecidableEq, Repr

/-- The name of the template of a part. -/
def Part.template (framework : Framework) : Part → String
  | component => framework.name ++ "/component." ++ framework.fileExtension ++ ".j2"
  | types => "shared/types.ts.j2"
  | tests => "shared/test.tsx.j2"
  | stories => "shared/stories.tsx.j2"
  | documentation => "shared/docs.md.j2"
  | config => framework.name ++ "/config.js.j2"
  | styles => "shared/styles.module.css.j2"
  | schemaTypes => "shared/schema_types.ts.j2"

/-- The name of the file of a part; `lower` is the component's name in lower case. -/
def Part.fileName (framework : Framework) (lower : String) : Part → String
  | component => lower ++ "." ++ framework.fileExtension
  | types => lower ++ ".types.ts"
  | tests => lower ++ ".test.tsx"
  | stories => lower ++ ".stories.tsx"
  | documentation => lower ++ ".md"
  | config => framework.configFile
  | styles => lower ++ ".module.css"
  | schemaTypes => lower ++ ".types.ts"

/-- The start of the class names in style sheets. -/
def cssPrefix : String := "pf-v6-c-"

/-- A component that is ready to be rendered. -/
structure Generator where
  framework : Framework
  view : ComponentView

namespace Generator

/-- Why nothing can be rendered. -/
inductive Refusal where
  | unsupportedFramework (name : String)
  | view (refusal : ComponentView.Refusal)
  deriving DecidableEq, Repr

def Refusal.message : Refusal → String
  | unsupportedFramework name => s!"Unsupported framework: {name}"
  | view r => r.message

/-- A generator for the framework of a name. The framework is checked before the component. -/
def make (tables : Classification) (framework : String) (schema : Schema) :
    Except Refusal Generator :=
  match Framework.ofName? framework with
  | none => .error (.unsupportedFramework framework)
  | some framework =>
    match ComponentView.ofSchema tables schema with
    | .error r => .error (.view r)
    | .ok view => .ok { framework, view }

variable (g : Generator)

/-- The names that templates may use. -/
def scope : Template.Scope :=
  [("ctx", g.view.exposed), ("framework", .text g.framework.name),
    ("framework_label", .text g.framework.label), ("css_prefix", .text cssPrefix)]

/-- The text of a part by the templates of a library. -/
def render (library : Template.Library) (p : Part) : Except Template.Error String :=
  Template.render library Template.maxDepth (p.template g.framework) g.scope

/-- The name of the file of a part. -/
def fileName (p : Part) : String := p.fileName g.framework g.view.nameLower

end Generator

end PropForge
