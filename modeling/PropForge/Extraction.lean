import PropForge.Assoc
import PropForge.Classification
import PropForge.Schema.Basic
import PropForge.Text.Blank
import PropForge.TypeScript.Source

/-!
What a component's source says about the component. The contract comes from the first interface
whose name ends in `Props`; the implementation and the state come from every call, member, class
and import of the file, wherever it stands.
-/

namespace PropForge.Extraction

open TypeScript

/-- The text between a pair of equal quotes around it, or all of it. -/
def unquote (s : String) : String :=
  match s.toList with
  | q :: c :: rest =>
    if (q = '"' || q = '\'' || q = '\x60') && (c :: rest).getLast? = some q then
      String.ofList (c :: rest).dropLast
    else s
  | _ => s

section Descriptions

/-- A line of a comment without the blanks and stars around it. -/
def commentLine (line : List Char) : List Char :=
  Text.strip ((Text.strip line).dropWhile (· = '*'))

/-- The description in a documentation comment: its lines up to the first tag, joined. -/
def commentDescription (comment : List Char) : Option String :=
  if "/**".toList.isPrefixOf comment then
    let body := (comment.take (comment.length - 2)).drop 3
    let spoken := ((Text.lines body).map commentLine).takeWhile fun l => l.head? ≠ some '@'
    let words := (spoken.filter (!·.isEmpty)).map String.ofList
    if words.isEmpty then none else some (" ".intercalate words)
  else none

/-- The description in a comment that is the nearest of the older siblings. -/
def descriptionAfter (source : Source) (before : List Tree) : Option String := do
  let previous ← before.head?
  if previous.kind = .comment then commentDescription (source.slice previous).toList else none

/-- The older siblings of a declaration, or of the export around it. -/
def documentedBefore (site : Site) : List Tree :=
  match site.above with
  | frame :: _ => if frame.parent.kind = .exportStatement then frame.before else site.before
  | [] => site.before

end Descriptions

section Contracts

/-- The source text of the first child in a role, empty if there is none. -/
def childText (source : Source) (t : Tree) (role : Role) : String :=
  ((t.child? role).map source.slice).getD ""

def isPropsInterface (source : Source) (site : Site) : Bool :=
  "Props".toList.isSuffixOf (childText source site.tree .name).toList

/-- The interfaces whose names end in `Props`, in source order. -/
def propsInterfaces (source : Source) : List Site :=
  (source.tree.sitesOf [.interfaceDeclaration]).filter (isPropsInterface source)

/-- The type of a member as it is written, or `any`. -/
def memberType (source : Source) (member : Tree) : String :=
  match member.child? .type with
  | some clause => (clause.parts.head?.map source.slice).getD "any"
  | none => "any"

/-- The members of a body that are properties, each with its older siblings. -/
def properties (body : Tree) : List (Tree × List Tree) :=
  go [] body.children
where
  go (before : List Tree) : List Tree → List (Tree × List Tree)
    | [] => []
    | m :: rest =>
      if m.kind = .propertySignature then (m, before) :: go (m :: before) rest
      else go (m :: before) rest

/-- A member of the props interface, classified. -/
def propSpec (tables : Classification) (source : Source) (member : Tree × List Tree) : PropSpec :=
  let name := unquote (childText source member.1 .name)
  let type := memberType source member.1
  { name, type
    required := !member.1.children.any (·.kind = .optionalMark)
    category := tables.categorize name type
    description := descriptionAfter source member.2 }

def props (tables : Classification) (source : Source) (interface : Tree) : List PropSpec :=
  match interface.child? .body with
  | some body => (properties body).map (propSpec tables source)
  | none => []

/-- The text of what an interface extends. -/
def heritage (source : Source) (interface : Tree) : String :=
  " ".intercalate
    ((interface.children.filter (·.kind = .interfaceHeritage)).map source.slice)

/-- The props that are events. -/
def declaredEvents (tables : Classification) (props : List PropSpec) : List EventSpec :=
  (props.filter fun p => tables.isEventName p.name).map fun p =>
    ⟨p.name, p.type, p.description, false⟩

/-- The events that an element brings along and no prop declares. -/
def inheritedEvents (tables : Classification) (declared : List EventSpec) : List EventSpec :=
  (tables.inheritedEvents.filter fun (name, _) => !declared.any (·.name = name)).map
    fun (name, signature) =>
      ⟨name, signature, some "Inherited from React.HTMLProps", true⟩

def events (tables : Classification) (heritage : String) (props : List PropSpec) :
    List EventSpec :=
  let declared := declaredEvents tables props
  if tables.extendsHtmlProps heritage then declared ++ inheritedEvents tables declared
  else declared

/-- The value of an enumeration member: its string, or else its name. -/
def enumValue (source : Source) (member : Tree) : String :=
  if member.kind = .enumAssignment then
    match member.child? .value with
    | some value =>
      if value.kind = .string then unquote (source.slice value)
      else unquote (childText source member .name)
    | none => unquote (childText source member .name)
  else unquote (source.slice member)

def variantSpec (source : Source) (enum : Tree) : VariantSpec :=
  { name := childText source enum .name
    values := ((enum.child? .body).map fun b => b.parts.map (enumValue source)).getD []
    type := "enum" }

/-- The enumerations whose names make them variants. -/
def variants (tables : Classification) (source : Source) : List VariantSpec :=
  ((source.tree.sitesOf [.enumDeclaration]).map fun s => variantSpec source s.tree).filter
    fun v => tables.isVariantEnum v.name

/-- The name of the component that an interface describes. -/
def componentName (interfaceName : String) : String :=
  String.ofList (interfaceName.toList.take (interfaceName.length - "Props".length))

def contractOf (tables : Classification) (source : Source) (site : Site) : Contract :=
  let props := props tables source site.tree
  { componentName := componentName (childText source site.tree .name)
    props
    events := events tables (heritage source site.tree) props
    variants := variants tables source
    slots := []
    accessibility := Assoc.ofList ((props.filter fun p => isAriaName p.name).map fun p =>
      (p.name, p.type))
    description := descriptionAfter source (documentedBefore site) }

/-- The contract of the component, if an interface states its props. -/
def contract? (tables : Classification) (source : Source) : Option Contract :=
  (propsInterfaces source).head?.map (contractOf tables source)

end Contracts

section Calls

def calls (source : Source) : List Site := source.tree.sitesOf [.call]

/-- The name that a call calls, if it calls a bare name. -/
def calleeName? (source : Source) (call : Tree) : Option String := do
  let callee ← call.child? .function
  if callee.kind = .identifier then some (source.slice callee) else none

def callArguments (call : Tree) : List Tree :=
  ((call.child? .arguments).map Tree.parts).getD []

/-- The bare names in the list that a call passes second. -/
def dependencies (source : Source) (call : Tree) : List String :=
  match callArguments call with
  | _ :: list :: _ =>
    if list.kind = .array then
      (list.children.filter (·.kind = .identifier)).map source.slice
    else []
  | _ => []

/-- The type arguments of a call as they are written. -/
def typeArgumentsText? (source : Source) (call : Tree) : Option String := do
  let inner := (← call.child? .typeArguments).parts
  if inner.isEmpty then none else some (", ".intercalate (inner.map source.slice))

/-- Kinds of node that pass on the value inside them. -/
def isWrapper : Kind → Bool
  | .asserted | .satisfied | .nonNull | .parenthesized => true
  | _ => false

/-- The declarator whose value a node is, through assertions and brackets around it. -/
def declarator? (site : Site) : Option Tree := go site.tree site.above
where
  go (value : Tree) : List Frame → Option Tree
    | [] => none
    | frame :: rest =>
      if isWrapper frame.parent.kind then go frame.parent rest
      else if frame.parent.kind = .variableDeclarator && value.role = .value then
        some frame.parent
      else none

/-- The plain variable that a call initialises. -/
def boundName? (source : Source) (site : Site) : Option String := do
  let name ← (← declarator? site).child? .name
  if name.kind = .identifier then some (source.slice name) else none

/-- The first name of the pair that a call initialises. -/
def boundState? (source : Source) (site : Site) : Option String := do
  let pattern ← (← declarator? site).child? .name
  if pattern.kind ≠ .arrayPattern then none
  let first ← pattern.parts.head?
  if first.kind = .identifier then some (source.slice first) else none

end Calls

section Implementations

/-- Calls with a name, in source order. -/
def namedCalls (source : Source) : List (String × Site) :=
  (calls source).filterMap fun s => (calleeName? source s.tree).map (·, s)

def callsOf (source : Source) (name : String) : List Site :=
  ((namedCalls source).filter (·.1 = name)).map (·.2)

/-- Every call of a name that begins with `use`. -/
def hooks (source : Source) : List HookUse :=
  ((namedCalls source).filter fun (name, _) => "use".toList.isPrefixOf name.toList).map
    fun (name, s) => ⟨name, dependencies source s.tree⟩

/-- A ref that no variable holds goes by `ref`. -/
def refUse (source : Source) (site : Site) : RefUse :=
  { name := (boundName? source site).getD "ref"
    type := "React.RefObject<" ++ (typeArgumentsText? source site.tree).getD "any" ++ ">" }

def refs (source : Source) : List RefUse := (callsOf source "useRef").map (refUse source)

/-- A member called `Provider` or `Consumer` makes its owner a context. -/
def contextUse? (source : Source) (member : Tree) : Option ContextUse :=
  let owner := childText source member .object
  match childText source member .property with
  | "Provider" => some ⟨owner, some owner, none⟩
  | "Consumer" => some ⟨owner, none, some owner⟩
  | _ => none

def contexts (source : Source) : List ContextUse :=
  (source.tree.sitesOf [.member]).filterMap fun s => contextUse? source s.tree

/-- The name by which an imported thing goes in this file. -/
def importedName? (source : Source) (specifier : Tree) : Option String :=
  ((specifier.child? .alias).or (specifier.child? .name)).map (unquote ∘ source.slice)

/-- The names that one part of an import clause binds. -/
def boundByImport (source : Source) (binding : Tree) : List String :=
  match binding.kind with
  | .identifier => [source.slice binding]
  | .namedImports =>
    (binding.children.filter (·.kind = .importSpecifier)).filterMap (importedName? source)
  | _ => []

def importUse (source : Source) (statement : Tree) : ImportUse :=
  let bindings := (statement.children.filter (·.kind = .importClause)).flatMap Tree.children
  { source := unquote (childText source statement .source)
    names := bindings.flatMap (boundByImport source)
    isDefault := bindings.any (·.kind = .identifier) }

def imports (source : Source) : List ImportUse :=
  (source.tree.sitesOf [.importStatement]).map fun s => importUse source s.tree

/-- A class anywhere in the file makes the component a class. -/
def componentType (source : Source) : String :=
  if (source.tree.sitesOf [.classDeclaration, .abstractClass]).isEmpty then "functional"
  else "class"

def implementation (source : Source) : Implementation where
  type := componentType source
  forwardRef := !(callsOf source "forwardRef").isEmpty
  hooks := hooks source
  refs := refs source
  context := contexts source
  imports := imports source

/-- State that is not taken apart into a pair goes by `state`. -/
def stateVariable (source : Source) (site : Site) : StateVariable :=
  { name := (boundState? source site).getD "state"
    type := (typeArgumentsText? source site.tree).getD "any"
    defaultValue := (callArguments site.tree).head?.map source.slice }

def effectUse (source : Source) (site : Site) : EffectUse :=
  ⟨"useEffect", dependencies source site.tree⟩

def stateUse (source : Source) : StateUse where
  localState := (callsOf source "useState").map (stateVariable source)
  contextState := []
  effects := (callsOf source "useEffect").map (effectUse source)
  derivedState := []

end Implementations

end PropForge.Extraction
