/-!
The concrete tree of a TypeScript source. A node has a kind, a role in its parent, the stretch of
source it covers and its children in source order; comments are nodes like any other. Marks
that nobody asks about (brackets, keywords, separators) are left out.

`Tree.sites` lists every node together with what stands before it and above it, parents first:
the order in which a reader of the source meets them.
-/

namespace PropForge.TypeScript

/-- What a node of the tree is. -/
inductive Kind where
  | comment | markupComment | unreadable
  | program | block | statement | clause
  | lexicalDeclaration | variableDeclarator
  | functionDeclaration | functionSignature | parameters | parameter
  | classDeclaration | abstractClass | classExpression | classBody | classMember | classHeritage
  | decorator
  | interfaceDeclaration | interfaceHeritage | objectType
  | propertySignature | methodSignature | callSignature | constructSignature | indexSignature
  | optionalMark
  | enumDeclaration | enumBody | enumAssignment
  | typeAlias | namespaceDeclaration | ambientDeclaration
  | importStatement | importClause | namedImports | importSpecifier | namespaceImport
  | importRequire | importAlias | importAttributes
  | exportStatement | exportClause | exportSpecifier
  | identifier | undefinedName | propertyName | privateName | computedName | typeName
  | qualifiedTypeName
  | literal | string | number | regex
  | template | templateText | escape | substitution
  | array | arrayPattern | objectPattern | hole | restPattern | defaultPattern | keyedPattern
  | object | pair | shorthand | method | spread
  | call | arguments | member | subscript | construction | metaProperty | importWord | superWord
  | nonNull | asserted | satisfied | cast | instantiation
  | parenthesized | sequence | unary | update | binary | conditional | assignment
  | await | yield | arrowFunction | functionExpression
  | typeClause | typeArguments | typeParameters | typeParameter
  | functionType | constructorType | conditionalType | unionType | typeOperator | typeQuery
  | arrayType | indexedType | parenthesizedType | tupleType | literalType | templateType
  | genericType | predicate | importType
  | jsxElement | jsxTag | jsxAttribute | jsxExpression | jsxText
  deriving DecidableEq, Repr

/-- The part a node plays in its parent. -/
inductive Role where
  | plain | name | value | type | body | function | arguments | typeArguments
  | object | property | source | alias
  deriving DecidableEq, Repr

/-- A stretch of source, counted in characters, without its `stop`. -/
structure Span where
  start : Nat
  stop : Nat
  deriving DecidableEq, Repr

inductive Tree where
  | node (kind : Kind) (role : Role) (span : Span) (children : List Tree)
  deriving Repr

namespace Tree

def kind : Tree → Kind
  | .node k _ _ _ => k

def role : Tree → Role
  | .node _ r _ _ => r

def span : Tree → Span
  | .node _ _ s _ => s

def children : Tree → List Tree
  | .node _ _ _ cs => cs

def withRole (role : Role) : Tree → Tree
  | .node k _ s cs => .node k role s cs

/-- A dotted name grows to the right: `a.b.c` is the member `c` of the member `b` of `a`. -/
def memberOf (owner property : Tree) : Tree :=
  .node .member .plain ⟨owner.span.start, property.span.stop⟩
    [owner.withRole .object, property.withRole .property]

/-- The first child that plays `role`. -/
def child? (t : Tree) (role : Role) : Option Tree :=
  t.children.find? (·.role = role)

/-- The children that are not comments. -/
def parts (t : Tree) : List Tree :=
  t.children.filter (·.kind ≠ .comment)

end Tree

/-- A node's older siblings, nearest first, under one of its ancestors. -/
structure Frame where
  parent : Tree
  before : List Tree

/-- A node with its place in the tree: its older siblings, nearest first, and its ancestors,
nearest first, each with its own older siblings. -/
structure Site where
  tree : Tree
  before : List Tree
  above : List Frame

namespace Tree

mutual

/-- The node and all below it, parents first, in source order. -/
def sitesBelow (t : Tree) (before : List Tree) (above : List Frame) : List Site :=
  match t with
  | .node k r s cs =>
    ⟨.node k r s cs, before, above⟩ ::
      childSites cs [] (⟨.node k r s cs, before⟩ :: above)

def childSites (cs : List Tree) (before : List Tree) (above : List Frame) : List Site :=
  match cs with
  | [] => []
  | c :: rest => sitesBelow c before above ++ childSites rest (c :: before) above

end

def sites (t : Tree) : List Site := t.sitesBelow [] []

/-- Every node of one of the given kinds, in source order. -/
def sitesOf (t : Tree) (kinds : List Kind) : List Site :=
  t.sites.filter fun s => kinds.contains s.tree.kind

end Tree

end PropForge.TypeScript
