import PropForge.Text.Search

/-!
Which kind of thing a prop is, read off its name and its type by tables of keywords.
-/

namespace PropForge

/-- The tables that props, events and enumerations are classified by. -/
structure Classification where
  coreNames : List String
  stylingKeywords : List String
  accessibilityPrefixes : List String
  accessibilityKeywords : List String
  eventPrefix : String
  booleanPrefixes : List String
  complexTypeMarkers : List String
  htmlPropsBases : List String
  /-- Events that come with the props of an element, each with its signature. -/
  inheritedEvents : List (String × String)
  variantKeywords : List String
  deriving DecidableEq, Repr

namespace Classification

def defaultInheritedEvents : List (String × String) :=
  [("onClick", "(event: React.MouseEvent<HTMLElement>) => void"),
    ("onKeyDown", "(event: React.KeyboardEvent<HTMLElement>) => void"),
    ("onKeyUp", "(event: React.KeyboardEvent<HTMLElement>) => void"),
    ("onKeyPress", "(event: React.KeyboardEvent<HTMLElement>) => void"),
    ("onMouseEnter", "(event: React.MouseEvent<HTMLElement>) => void"),
    ("onMouseLeave", "(event: React.MouseEvent<HTMLElement>) => void"),
    ("onFocus", "(event: React.FocusEvent<HTMLElement>) => void"),
    ("onBlur", "(event: React.FocusEvent<HTMLElement>) => void"),
    ("onChange", "(event: React.ChangeEvent<HTMLElement>) => void"),
    ("onSubmit", "(event: React.FormEvent<HTMLElement>) => void"),
    ("onLoad", "(event: React.SyntheticEvent<HTMLElement>) => void"),
    ("onError", "(event: React.SyntheticEvent<HTMLElement>) => void")]

/-- The tables of a project that overrides none. -/
def standard : Classification where
  coreNames := ["children", "className", "id", "key", "ref"]
  stylingKeywords := ["style", "size", "variant", "color", "theme", "appearance"]
  accessibilityPrefixes := ["aria-", "role", "tabIndex"]
  accessibilityKeywords := ["label", "description", "ouia"]
  eventPrefix := "on"
  booleanPrefixes := ["is", "has", "can", "should", "will"]
  complexTypeMarkers :=
    ["ReactNode", "ReactElement", "ElementType", "ComponentType", "Function", "Object", "Array"]
  htmlPropsBases :=
    ["React.HTMLProps", "React.ButtonHTMLAttributes", "React.InputHTMLAttributes"]
  inheritedEvents := defaultInheritedEvents
  variantKeywords := ["Variant", "Size", "Type"]

variable (tables : Classification)

/-- The first boolean prefix that a capital letter of ASCII follows in the name. -/
def booleanPrefix? (name : String) : Option String :=
  tables.booleanPrefixes.find? fun p =>
    p.toList.isPrefixOf name.toList &&
      ((name.toList.drop p.length).head?.map Char.isUpper).getD false

def isBooleanName (name : String) : Bool := (tables.booleanPrefix? name).isSome

/-- The name after its boolean prefix, if it has one. -/
def stripBooleanPrefix (name : String) : String :=
  match tables.booleanPrefix? name with
  | some p => String.ofList (name.toList.drop p.length)
  | none => name

/-- An event has a name that goes on after the event prefix. -/
def isEventName (name : String) : Bool :=
  tables.eventPrefix.toList.isPrefixOf name.toList && tables.eventPrefix.length < name.length

/-- The category of a prop; the first rule that applies decides. A prop that is called just like
an accessibility keyword is content. -/
def categorize (name type : String) : String :=
  if tables.coreNames.contains name then "core"
  else if tables.stylingKeywords.any fun k => Text.occursIn k name || Text.occursIn k type then
    "styling"
  else if tables.accessibilityPrefixes.any fun p => p.toList.isPrefixOf name.toList then
    "accessibility"
  else if tables.accessibilityKeywords.any fun k => Text.occursIn k name && name ≠ k then
    "accessibility"
  else if tables.isEventName name then "events"
  else if tables.isBooleanName name then "advanced"
  else if tables.complexTypeMarkers.any fun m => Text.occursIn m type then "advanced"
  else "core"

/-- Whether an interface with this heritage inherits the events of an element. -/
def extendsHtmlProps (heritage : String) : Bool :=
  tables.htmlPropsBases.any fun base => Text.occursIn base heritage

def isVariantEnum (name : String) : Bool :=
  tables.variantKeywords.any fun k => Text.occursIn k name

end Classification

/-- Accessibility attributes, by the standard's own names. -/
def isAriaName (name : String) : Bool :=
  name = "role" || "aria-".toList.isPrefixOf name.toList

end PropForge
