import PropForge.TypeScript.Parser

/-!
Types, and the signatures that contain them. The readers of the tree take a type as the stretch
of source it covers, so what counts here is where a type begins and ends; the names inside it are
kept apart because a dotted name may mention a context.
-/

namespace PropForge.TypeScript

open PropForge.TypeScript.Parser

/-- Words that count as modifiers only before something they can modify, on the same line. -/
def modifiers (words : List String) : Parser Unit :=
  many do
    oneOf words
    sameLine {} false
    match ← look with
    | c :: _ =>
      if !(isNameStart c || ['[', '\x7b', '*', '#', '"', '\'', '\\'].contains c || c.isDigit)
        then failure
    | [] => failure

def spread (rec : Productions) : Parser Unit :=
  node .spread (do mark "..."; rec (.operand .bracketed))

def arguments (rec : Productions) : Parser Unit :=
  node .arguments do
    mark "("
    listUntil ")" (spread rec <|> rec (.operand .bracketed))

def typeArguments (rec : Productions) : Parser Unit :=
  node .typeArguments do
    mark "<"
    listUntil ">" (rec (.type .bracketed))

def typeParameter (rec : Productions) : Parser Unit :=
  node .typeParameter do
    modifiers ["const", "in", "out"]
    anyName .typeName
    possibly (do word "extends"; rec (.type .bracketed))
    possibly (do mark "="; rec (.type .bracketed))

def typeParameters (rec : Productions) : Parser Unit :=
  node .typeParameters do
    mark "<"
    listUntil ">" (typeParameter rec)

def typeClause (rec : Productions) (mode : Mode) : Parser Unit :=
  node .typeClause (do mark ":"; rec (.type mode))

/-- A name, a member of one or a call of either, after an at sign. -/
def decorator (rec : Productions) : Parser Unit :=
  node .decorator do
    mark "@"
    if (← look).head? = some '(' then
      mark "("; rec (.expression .bracketed); mark ")"
    else
      let start ← place
      identifier
      many do
        labelled .object
        mark "."
        as .property (anyName .propertyName)
        start.wrap .member
      possibly do
        labelled .function
        possibly (as .typeArguments (typeArguments rec))
        as .arguments (arguments rec)
        start.wrap .call
      start.finish

def optionalMark : Parser Unit :=
  lexeme .optionalMark fun
    | '?' :: _ => 1
    | _ => 0

def parameter (rec : Productions) : Parser Unit :=
  node .parameter do
    many (decorator rec)
    modifiers ["public", "private", "protected", "readonly", "override"]
    possibly (mark "...")
    word "this" <|> rec .pattern
    possibly optionalMark
    possibly (typeClause rec .bracketed)
    possibly (do mark "="; rec (.operand .bracketed))

def parameters (rec : Productions) : Parser Unit :=
  node .parameters do
    mark "("
    listUntil ")" (parameter rec)

/-- What a function takes and gives. -/
def callSignature (rec : Productions) (mode : Mode) : Parser Unit := do
  possibly (typeParameters rec)
  parameters rec
  possibly (typeClause rec mode)

/-- Names between dots, as one tree. -/
def dottedName (first : Parser Unit) : Parser Unit := do
  let start ← place
  first
  many do
    labelled .object
    mark "."
    as .property (anyName .propertyName)
    start.wrap .member
  start.finish

/-- The last of the names between dots is the type's, those before it lead to its namespace. -/
def typeName : Parser Unit := do
  let start ← place
  anyName .identifier
  many do
    mark "."
    anyName .propertyName
  modify fun s =>
    match (s.built.filter (·.kind ≠ .comment)).reverse with
    | first :: second :: rest =>
      let owner := (second :: rest).dropLast.foldl Tree.memberOf first
      let name := (second :: rest).getLast (by simp)
      { s with built := [.node .qualifiedTypeName .plain ⟨start.offset, s.offset⟩ [owner, name]] }
    | _ => { s with built := s.built.map fun t => .node .typeName t.role t.span t.children }
  start.finish

def typeReference (rec : Productions) : Parser Unit := do
  let start ← place
  typeName
  possibly do
    as .typeArguments (typeArguments rec)
    start.wrap .genericType
  start.finish

/-- `import("module")`, with the names that lead into the module. -/
def importType (rec : Productions) : Parser Unit := do
  let start ← place
  as .function (lexeme .importWord nameLength)
  as .arguments (arguments rec)
  start.wrap .call
  many do
    labelled .object
    mark "."
    as .property (anyName .propertyName)
    start.wrap .member
  possibly do
    as .typeArguments (typeArguments rec)
    start.wrap .genericType
  start.finish

/-- `typeof` before a value: a name, a path of members and literal indices, or a call. -/
def typeQuery (rec : Productions) (mode : Mode) : Parser Unit :=
  node .typeQuery do
    word "typeof"
    if (← lookWord) = "import" then importType rec
    else
      let start ← place
      identifier <|> (do word "this"; modify (·.leaf .literal 0))
      many do
        sameLine mode false
        match ← look with
        | '.' :: _ | '?' :: '.' :: _ =>
          labelled .object
          mark "." <|> mark "?."
          as .property (privateName <|> anyName .propertyName)
          start.wrap .member
        | '[' :: _ =>
          mark "["
          stringLiteral <|> number <|> oneOf ["string", "number", "symbol", "any"]
          mark "]"
          start.wrap .subscript
        | '(' :: _ =>
          labelled .function
          as .arguments (arguments rec)
          start.wrap .call
        | _ => failure
      possibly do
        as .typeArguments (typeArguments rec)
        start.wrap .instantiation
      start.finish

/-- A key signature, of one key type or of every key of a type. -/
def indexSignature (rec : Productions) : Parser Unit :=
  node .indexSignature do
    modifiers ["static"]
    possibly (mark "+" <|> mark "-")
    possibly (word "readonly")
    mark "["
    anyName .identifier
    (do mark ":"; rec (.type .bracketed)) <|> do
      word "in"
      rec (.type .bracketed)
      possibly (do word "as"; rec (.type .bracketed))
    mark "]"
    possibly (mark "+" <|> mark "-")
    possibly (mark "?")
    possibly (typeClause rec {})

/-- A property or a method, told apart by the bracket after its name. -/
def namedSignature (rec : Productions) : Parser Unit := do
  let start ← place
  modifiers ["public", "private", "protected", "static", "override", "readonly", "async", "get",
    "set"]
  possibly (mark "*")
  as .name (memberName rec)
  possibly optionalMark
  let broken ← breaks false
  match ← look with
  | '(' :: _ | '<' :: _ =>
    if broken then start.wrap .propertySignature
    else
      callSignature rec {}
      start.wrap .methodSignature
  | _ =>
    possibly (as .type (typeClause rec {}))
    start.wrap .propertySignature
  start.finish

def memberSignature (rec : Productions) : Parser Unit :=
  indexSignature rec <|>
    node .callSignature (callSignature rec {}) <|>
    node .constructSignature (do
      possibly (word "abstract")
      word "new"
      callSignature rec {}) <|>
    namedSignature rec

/-- The members between braces, of an interface or of an object type. -/
def objectType (rec : Productions) : Parser Unit :=
  node .objectType do
    mark "\x7b"
    many (mark "," <|> mark ";" <|> do memberSignature rec; terminator false [",", ";"])
    mark "\x7d"

def tupleMember (rec : Productions) : Parser Unit := do
  possibly (mark "...")
  possibly do
    anyName .identifier
    possibly (mark "?")
    mark ":"
  rec (.type .bracketed)
  possibly (mark "?")

/-- Reserved words that are types of their own. -/
def typeWords : List String := ["void", "null", "this", "true", "false"]

def primaryType (rec : Productions) (mode : Mode) : Parser Unit := do
  match ← look with
  | '\x7b' :: _ => objectType rec
  | '[' :: _ => node .tupleType (do mark "["; listUntil "]" (tupleMember rec))
  | '(' :: _ => node .parenthesizedType (do mark "("; rec (.type .bracketed); mark ")")
  | '\x60' :: _ => template .templateType (rec (.type .bracketed))
  | '-' :: _ => node .literalType (do mark "-"; number)
  | c :: _ =>
    if c = '"' || c = '\'' then node .literalType stringLiteral
    else if c.isDigit || c = '.' then node .literalType number
    else
      let w ← lookWord
      if w = "typeof" then typeQuery rec mode
      else if w = "import" then importType rec
      else if reservedWords.contains w && !typeWords.contains w then failure
      else typeReference rec
  | [] => failure

/-- A type with the brackets after it. -/
def bracketedType (rec : Productions) (mode : Mode) : Parser Unit := do
  let start ← place
  primaryType rec mode
  many do
    sameLine mode false
    mark "["
    (do mark "]"; start.wrap .arrayType) <|>
      (do rec (.type .bracketed); mark "]"; start.wrap .indexedType)
  start.finish

/-- `infer` names a type inside a condition. A constraint after the name is its own unless it
turns out to be the next condition. -/
def inferredType (rec : Productions) (mode : Mode) : Parser Unit :=
  node .typeOperator do
    word "infer"
    anyName .typeName
    possibly do
      word "extends"
      rec (.type { mode with conditional := false })
      if mode.conditional && (← look).head? = some '?' then failure

/-- A type without operators that join two types. -/
def simpleType (rec : Productions) (mode : Mode) : Parser Unit := do
  let w ← lookWord
  if ["keyof", "unique", "readonly"].contains w then
    node .typeOperator (do word w; rec (.simpleType mode)) <|> bracketedType rec mode
  else if w = "infer" then inferredType rec mode <|> bracketedType rec mode
  else bracketedType rec mode

def unionType (rec : Productions) (mode : Mode) : Parser Unit := do
  let start ← place
  let led ← tried (mark "|" <|> mark "&")
  rec (.simpleType mode)
  let one := (← get).offset
  many do
    sameLine mode false
    mark "|" <|> mark "&"
    rec (.simpleType mode)
  if led || one < (← get).offset then start.wrap .unionType
  start.finish

def conditionalType (rec : Productions) (mode : Mode) : Parser Unit := do
  let start ← place
  unionType rec mode
  possibly do
    if !mode.conditional then failure
    sameLine mode false
    word "extends"
    rec (.type { mode with conditional := false })
    mark "?"
    rec (.type .bracketed)
    mark ":"
    rec (.type mode)
    start.wrap .conditionalType
  start.finish

def functionType (rec : Productions) (mode : Mode) : Parser Unit := do
  match ← look with
  | '(' :: _ | '<' :: _ =>
    node .functionType do
      possibly (typeParameters rec)
      parameters rec
      mark "=>"
      rec (.type mode)
  | _ =>
    if ["new", "abstract"].contains (← lookWord) then
      node .constructorType do
        possibly (word "abstract")
        word "new"
        possibly (typeParameters rec)
        parameters rec
        mark "=>"
        rec (.type mode)
    else failure

/-- What a function's result says about one of its parameters. -/
def predicate (rec : Productions) (mode : Mode) : Parser Unit :=
  node .predicate do
    if (← lookWord) = "asserts" then
      word "asserts"
      sameLine mode false
      if (← lookWord) = "is" then failure
      anyName .identifier
      possibly (do sameLine mode false; word "is"; rec (.type mode))
    else
      anyName .identifier
      sameLine mode false
      word "is"
      rec (.type mode)

def typeExpression (rec : Productions) (mode : Mode) : Parser Unit :=
  functionType rec mode <|> predicate rec mode <|> conditionalType rec mode

end PropForge.TypeScript
