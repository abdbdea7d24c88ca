import PropForge.Assoc
import PropForge.Classification
import PropForge.Naming
import PropForge.Schema.Basic
import PropForge.Text.SingleQuoted
import PropForge.Text.WholeWord

/-!
What the generated files say of a component: its props by section, the prop that selects each
variant, one story a variant value, and names for state and hooks that clash with no other name of
the generated component.
-/

namespace PropForge

/-- The props of one category. -/
structure PropSection where
  category : String
  title : String
  props : List PropSpec
  deriving DecidableEq, Repr

/-- A variant with the prop that selects it, or with the name such a prop would have. -/
structure VariantBinding where
  variant : VariantSpec
  propName : String
  matched : Bool
  deriving DecidableEq, Repr

/-- The name that generated code binds the selecting prop to. -/
def VariantBinding.local (b : VariantBinding) : String := Naming.localName b.propName

/-- One value of a variant, with the name of its story. -/
structure VariantCase where
  propName : String
  value : String
  storyName : String
  deriving DecidableEq, Repr

/-- A boolean prop with the style modifier it switches. -/
structure Modifier where
  localName : String
  modifier : String
  deriving DecidableEq, Repr

/-- A call of a hook of the project, with the name of its result. -/
structure HookCall where
  name : String
  result : String
  deriving DecidableEq, Repr

/-- Props picked out by their names. -/
structure NamePatterns where
  ouia : List String
  aria : List String
  boolean : List String
  deriving DecidableEq, Repr

/-- All that templates see of a component. -/
structure ComponentView where
  name : String
  nameLower : String
  stylesKey : String
  props : List PropSpec
  sections : List PropSection
  events : List EventSpec
  variants : List VariantSpec
  bindings : List VariantBinding
  cases : List VariantCase
  customHooks : List HookCall
  state : List StateVariable
  effects : List EffectUse
  patterns : NamePatterns
  modifiers : List Modifier
  reactImports : List String
  ouiaArguments : String × String
  hasChildren : Bool
  hasClassName : Bool
  forwardRef : Bool
  componentType : String
  deriving DecidableEq, Repr

namespace ComponentView

section Sections

/-- The categories of props in the order of their sections, with the titles. -/
def sectionTitles : List (String × String) :=
  [("core", "Core props"), ("styling", "Styling props"), ("accessibility", "Accessibility props"),
    ("advanced", "Advanced props"), ("events", "Event props"), ("unknown", "Other props")]

def sectionCategory (p : PropSpec) : String := if p.category = "" then "unknown" else p.category

def sectionTitle (category : String) : String :=
  (Assoc.get? category sectionTitles).getD "Other props"

/-- The categories that have sections: the known ones, then others in the order of first use. -/
def sectionCategories (props : List PropSpec) : List String :=
  Assoc.keys sectionTitles ++
    (props.map sectionCategory).eraseDups.filter fun c =>
      !(Assoc.keys sectionTitles).contains c

/-- The props by category. A category without props has no section. -/
def sectionsOf (props : List PropSpec) : List PropSection :=
  (sectionCategories props).filterMap fun c =>
    match props.filter fun p => sectionCategory p = c with
    | [] => none
    | members => some ⟨c, sectionTitle c, members⟩

end Sections

section Variants

/-- The prop that a variant's name asks for: the name after the component's own. -/
def bindingCandidate (component variant : String) : String :=
  if component.toList.isPrefixOf variant.toList && component.length < variant.length then
    Text.lowerFirst (String.ofList (variant.toList.drop component.length))
  else Text.lowerFirst variant

/-- The prop that selects a variant: the one with the candidate name, or else the first whose type
mentions the variant. -/
def bindVariant (component : String) (props : List PropSpec) (v : VariantSpec) :
    VariantBinding :=
  let candidate := bindingCandidate component v.name
  if props.any fun p => p.name = candidate then ⟨v, candidate, true⟩
  else match props.find? fun p => Text.hasWord v.name p.type with
    | some p => ⟨v, p.name, true⟩
    | none => ⟨v, candidate, false⟩

/-- A name with a number behind it from the second on. -/
def numbered (base : String) (n : Nat) : String :=
  if n = 0 then base else base ++ String.ofList (Number.digits (n + 1))

/-- The first numbered form of a name that is not used. One of the first forms is unused, because
there is one more of them than there are used names. -/
def unusedName (used : List String) (base : String) : String :=
  (((List.range (used.length + 1)).map (numbered base)).find? (!used.contains ·)).getD base

/-- The story of a value: the value's own name, or that of prop and value if the first is taken. -/
def storyName (used : List String) (propName value : String) : String :=
  let story := Naming.pascalCase value
  unusedName used
    (if used.contains story then Naming.pascalCase (propName ++ " " ++ value) else story)

/-- The cases of values in turn, each story named apart from all before it. -/
def casesFrom (used : List String) : List (String × String) → List VariantCase
  | [] => []
  | (propName, value) :: rest =>
    let story := storyName used propName value
    ⟨propName, value, story⟩ :: casesFrom (story :: used) rest

/-- The values of all variants, each with the prop that selects it. -/
def variantValues (bindings : List VariantBinding) : List (String × String) :=
  bindings.flatMap fun b => b.variant.values.map (b.propName, ·)

/-- The cases of all variants. One story is always there and keeps its name. -/
def casesOf (bindings : List VariantBinding) : List VariantCase :=
  casesFrom ["Default"] (variantValues bindings)

end Variants

section Names

/-- Names that the component template declares itself. -/
def templateLocals : List String := ["props", "ref", "ouiaProps", "cssClasses", "styles", "css"]

/-- The name of the function that sets a state variable. -/
def setterName (name : String) : String := "set" ++ Text.upperFirst name

def isFree (reserved : List String) (withSetter : Bool) (name : String) : Bool :=
  !reserved.contains name && !(withSetter && reserved.contains (setterName name))

/-- The first numbered form of a name that is free. Each reserved name blocks at most two forms,
one as a value and one as a setter. -/
def freeName (reserved : List String) (withSetter : Bool) (base : String) : String :=
  (((List.range (2 * reserved.length + 1)).map (numbered base)).find?
    (isFree reserved withSetter)).getD base

/-- The names that a chosen name takes. -/
def taken (withSetter : Bool) (name : String) : List String :=
  if withSetter then [name, setterName name] else [name]

/-- State variables renamed in turn, so that neither a value nor a setter takes a name that is
reserved; and the names reserved after them. -/
def nameState (reserved : List String) : List StateVariable → List StateVariable × List String
  | [] => ([], reserved)
  | s :: rest =>
    let name := freeName reserved true s.name
    let (named, reserved) := nameState (taken true name ++ reserved) rest
    ({ s with name } :: named, reserved)

def reactHooks : List String :=
  ["use", "useCallback", "useContext", "useDebugValue", "useDeferredValue", "useEffect", "useId",
    "useImperativeHandle", "useInsertionEffect", "useLayoutEffect", "useMemo", "useReducer",
    "useRef", "useState", "useSyncExternalStore", "useTransition"]

/-- The hook that the template calls itself. -/
def ouiaHook : String := "useOUIAProps"

/-- Hooks of the project, which generated code imports. -/
def isCustomHook (hook : String) : Bool :=
  !reactHooks.contains hook && hook ≠ ouiaHook && Naming.isIdentifier hook

/-- What the result of a hook is called if the name is free. -/
def hookResult (hook : String) : String :=
  let result := Text.lowerFirst (String.ofList (hook.toList.drop 3))
  if Naming.isIdentifier result then result else "hookResult"

/-- One call a hook. A hook's own name is reserved before its result is named. -/
def nameHooks (reserved : List String) : List String → List HookCall
  | [] => []
  | hook :: rest =>
    let result := freeName (hook :: reserved) false (hookResult hook)
    ⟨hook, result⟩ :: nameHooks (result :: hook :: reserved) rest

def hookCalls (reserved hooks : List String) : List HookCall :=
  nameHooks reserved (hooks.filter isCustomHook).eraseDups

end Names

/-- Why a schema has no view. -/
inductive Refusal where
  | badName (name : String)
  deriving DecidableEq, Repr

def Refusal.message : Refusal → String
  | badName name => s!"Component name {Text.shown name} is not a valid identifier"

/-- The names no state or hook may take. -/
def reservedNames (component : String) (props : List PropSpec) : List String :=
  props.map (fun p => Naming.localName p.name) ++ templateLocals ++ [component]

def patternsOf (tables : Classification) (props : List PropSpec) : NamePatterns :=
  let names := props.map (·.name)
  { ouia := names.filter (Text.occursIn "ouia")
    aria := names.filter fun n => "aria".toList.isPrefixOf n.toList
    boolean := names.filter tables.isBooleanName }

def modifierOf (tables : Classification) (prop : String) : Modifier :=
  ⟨Naming.localName prop, Text.lowerFirst (tables.stripBooleanPrefix prop)⟩

/-- A prop as an argument, or the word for none. -/
def argumentFor (props : List PropSpec) (name : String) : String :=
  if props.any fun p => p.name = name then name else "undefined"

/-- The view of a component whose name is an identifier. -/
def ofSchema (tables : Classification) (schema : Schema) : Except Refusal ComponentView :=
  let contract := schema.contract
  let name := contract.componentName
  if !Naming.isIdentifier name then .error (.badName name)
  else
    let props := contract.props
    let bindings := contract.variants.map (bindVariant name props)
    let (state, reserved) := nameState (reservedNames name props) schema.state.localState
    let patterns := patternsOf tables props
    .ok {
      name
      nameLower := Text.lower name
      stylesKey := Text.lowerFirst name
      props
      sections := sectionsOf props
      events := contract.events
      variants := contract.variants
      bindings
      cases := casesOf bindings
      customHooks := hookCalls reserved (schema.implementation.hooks.map (·.name))
      state
      effects := schema.state.effects
      patterns
      modifiers := patterns.boolean.map (modifierOf tables)
      reactImports := ["forwardRef"] ++ (if state.isEmpty then [] else ["useState"]) ++
        (if schema.state.effects.isEmpty then [] else ["useEffect"])
      ouiaArguments := (argumentFor props "ouiaId", argumentFor props "ouiaSafe")
      hasChildren := props.any fun p => p.name = "children"
      hasClassName := props.any fun p => p.name = "className"
      forwardRef := schema.implementation.forwardRef
      componentType := schema.implementation.type }

end ComponentView

end PropForge
