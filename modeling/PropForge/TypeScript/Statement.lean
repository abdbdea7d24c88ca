import PropForge.TypeScript.Expression

/-!
Statements and declarations. Words such as `type` or `declare` open a declaration only where the
rest of one follows; elsewhere they are ordinary names.
-/

namespace PropForge.TypeScript

open PropForge.TypeScript.Parser

/-- The end of a declaration that closes with a brace: the line break after it, with the comments
before the break. -/
def closing : Parser Unit := possibly (terminator false [])

/-- Skips one lexeme that no statement begins with. -/
def skipped : Parser Unit := do
  match ← look with
  | [] | '\x7d' :: _ => failure
  | _ =>
    lexeme .unreadable nameLength <|> lexeme .unreadable stringLength <|>
      lexeme .unreadable numberLength <|> lexeme .unreadable fun _ => 1

def statements (rec : Productions) : Parser Unit := many (rec .statement <|> skipped)

/-- A block ends with the line break after it, like a declaration. -/
def block (rec : Productions) : Parser Unit :=
  node .block do
    mark "\x7b"
    statements rec
    mark "\x7d"
    closing

def declarator (rec : Productions) (mode : Mode) : Parser Bool :=
  node .variableDeclarator do
    as .name (rec .pattern)
    possibly (mark "!")
    possibly (as .type (typeClause rec mode))
    tried (do mark "="; as .value (rec (.operand mode)))

/-- The declarators of one declaration; says whether the last one has a value. -/
def declarators (rec : Productions) (mode : Mode) : Parser Bool := do
  let first ← declarator rec mode
  let s ← get
  let rec more : Nat → Bool → Parser Bool
    | 0, valued => pure valued
    | fuel + 1, valued => do
      if ← tried (mark ",") then more fuel (← declarator rec mode) else return valued
  more s.limit first

def variableDeclaration (rec : Productions) : Parser Unit :=
  node .lexicalDeclaration do
    oneOf ["const", "let", "var"]
    terminator (← declarators rec {}) [";"]

def functionDeclaration (rec : Productions) : Parser Unit := do
  let start ← place
  possibly (word "async")
  word "function"
  possibly (mark "*")
  as .name identifier
  callSignature rec {}
  if (← look).head? = some '\x7b' then
    as .body (rec .block)
    closing
    start.wrap .functionDeclaration
  else
    terminator false [";"]
    start.wrap .functionSignature
  start.finish

def classDeclaration (rec : Productions) : Parser Unit :=
  node .classDeclaration do
    many (decorator rec)
    word "class"
    className
    classTail rec
    closing

def abstractClass (rec : Productions) : Parser Unit :=
  node .abstractClass do
    many (decorator rec)
    word "abstract"
    word "class"
    className
    classTail rec

def interfaceDeclaration (rec : Productions) : Parser Unit :=
  node .interfaceDeclaration do
    word "interface"
    as .name (anyName .typeName)
    possibly (typeParameters rec)
    possibly <| node .interfaceHeritage do
      word "extends"
      separated "," (typeReference rec)
    as .body (objectType rec)

/-- A value of an enumeration. A string in brackets names the value as a bare string does. -/
def enumMember (rec : Productions) : Parser Unit := do
  let start ← place
  as .name ((do mark "["; stringLiteral; mark "]") <|> memberName rec)
  possibly do
    mark "="
    as .value (rec (.operand .bracketed))
    start.wrap .enumAssignment
  start.finish

def enumDeclaration (rec : Productions) : Parser Unit :=
  node .enumDeclaration do
    possibly (word "const")
    word "enum"
    as .name identifier
    as .body <| node .enumBody do
      mark "\x7b"
      listUntil "\x7d" (enumMember rec)

def typeAlias (rec : Productions) : Parser Unit :=
  node .typeAlias do
    word "type"
    as .name (anyName .typeName)
    possibly (typeParameters rec)
    mark "="
    as .value (rec (.type {}))
    terminator false [";"]

def namespaceDeclaration (rec : Productions) : Parser Unit :=
  node .namespaceDeclaration do
    oneOf ["namespace", "module"]
    sameLine {} false
    as .name (stringLiteral <|> dottedName identifier)
    possibly (as .body (rec .block))

def ambientDeclaration (rec : Productions) (declaration : Parser Unit) : Parser Unit :=
  node .ambientDeclaration do
    word "declare"
    sameLine {} false
    (do word "global"; rec .block) <|> declaration

/-- A declaration by its first word. -/
def plainDeclaration (rec : Productions) : Parser Unit := do
  match ← lookWord with
  | "const" => enumDeclaration rec <|> variableDeclaration rec
  | "let" | "var" => variableDeclaration rec
  | "function" | "async" => functionDeclaration rec
  | "class" => classDeclaration rec
  | "abstract" => abstractClass rec
  | "interface" => interfaceDeclaration rec
  | "enum" => enumDeclaration rec
  | "type" => typeAlias rec
  | "namespace" | "module" => namespaceDeclaration rec
  | _ =>
    if (← look).head? = some '@' then classDeclaration rec <|> abstractClass rec else failure

def declaration (rec : Productions) : Parser Unit :=
  plainDeclaration rec <|> ambientDeclaration rec (plainDeclaration rec)

def namespaceImport : Parser Unit :=
  node .namespaceImport (do mark "*"; word "as"; identifier)

/-- The name of an export in another module. -/
def moduleName : Parser Unit := anyName .identifier <|> stringLiteral

/-- A name in a list, with the name it goes by here. -/
def renamed : Parser Unit :=
  let endsHere : Parser Unit := do
    match ← look with
    | ',' :: _ | '\x7d' :: _ => pure ()
    | _ => failure
  (do as .name moduleName; word "as"; as .alias moduleName; endsHere) <|>
    (do as .name moduleName; endsHere)

def importSpecifier : Parser Unit :=
  node .importSpecifier (renamed <|> (do oneOf ["type", "typeof"]; renamed))

def exportSpecifier : Parser Unit :=
  node .exportSpecifier (renamed <|> (do word "type"; renamed))

def namedImports : Parser Unit :=
  node .namedImports (do mark "\x7b"; listUntil "\x7d" importSpecifier)

def importClause : Parser Unit :=
  node .importClause <|
    namespaceImport <|> namedImports <|> do
      identifier
      possibly (do mark ","; namespaceImport <|> namedImports)

def importRequire : Parser Unit :=
  node .importRequire do
    identifier
    mark "="
    word "require"
    mark "("
    as .source stringLiteral
    mark ")"

def sourceClause : Parser Unit := do
  word "from"
  as .source stringLiteral

def importAttributes (rec : Productions) : Parser Unit :=
  possibly <| node .importAttributes do
    oneOf ["with", "assert"]
    if (← look).head? ≠ some '\x7b' then failure
    rec (.operand .bracketed)

def importStatement (rec : Productions) : Parser Unit :=
  node .importStatement do
    word "import"
    let bindings : Parser Unit := (do importClause; sourceClause) <|> importRequire
    (do oneOf ["type", "typeof"]; bindings) <|> bindings <|> as .source stringLiteral
    importAttributes rec
    terminator false [";"]

def importAlias : Parser Unit :=
  node .importAlias do
    word "import"
    identifier
    mark "="
    dottedName identifier
    terminator false [";"]

def expressionStatement (rec : Productions) : Parser Unit :=
  node .statement do
    rec (.expression {})
    terminator true [";"]

def exportClause : Parser Unit :=
  node .exportClause (do mark "\x7b"; listUntil "\x7d" exportSpecifier)

/-- What is exported from a list or from another module. -/
def exportList (rec : Productions) : Parser Unit := do
  possibly (word "type")
  (do
    mark "*"
    possibly (do word "as"; moduleName)
    sourceClause) <|> (do exportClause; possibly sourceClause)
  importAttributes rec
  terminator false [";"]

def exportStatement (rec : Productions) : Parser Unit :=
  node .exportStatement do
    many (decorator rec)
    word "export"
    exportList rec <|>
      (do mark "="; rec (.expression {}); terminator true [";"]) <|>
      (do word "as"; word "namespace"; identifier; terminator false [";"]) <|>
      importAlias <|>
      (do
        word "default"
        declaration rec <|> do
          as .value (rec (.operand {}))
          terminator true [";"]) <|>
      declaration rec

/-- A condition or value between brackets. -/
def bracketedExpression (rec : Productions) : Parser Unit := do
  mark "("
  rec (.expression .bracketed)
  mark ")"

/-- What a loop runs over: every element, or three parts between semicolons. -/
def loopHead (rec : Productions) : Parser Unit := do
  let mode : Mode := { lineEnd := false, inOperator := false }
  (do
    (do oneOf ["const", "let", "var"]; rec .pattern) <|> rec (.leftHand true .bracketed)
    oneOf ["in", "of"]
    rec (.expression .bracketed)) <|> do
      possibly <|
        node .lexicalDeclaration (do
          oneOf ["const", "let", "var"]
          let _ ← declarators rec mode) <|>
        rec (.expression mode)
      mark ";"
      possibly (rec (.expression .bracketed))
      mark ";"
      possibly (rec (.expression .bracketed))

def switchClause (rec : Productions) : Parser Unit :=
  node .clause do
    (do word "case"; rec (.expression .bracketed)) <|> word "default"
    mark ":"
    many (rec .statement)

/-- A statement that begins with a word of its own. -/
def controlStatement (rec : Productions) (w : String) : Parser Unit :=
  node .statement do
    word w
    match w with
    | "if" =>
      bracketedExpression rec
      rec .statement
      possibly (do word "else"; rec .statement)
    | "for" =>
      possibly (word "await")
      mark "("
      loopHead rec
      mark ")"
      rec .statement
    | "while" | "with" =>
      bracketedExpression rec
      rec .statement
    | "do" =>
      rec .statement
      word "while"
      bracketedExpression rec
      possibly (mark ";")
    | "switch" =>
      bracketedExpression rec
      mark "\x7b"
      many (switchClause rec)
      mark "\x7d"
    | "try" =>
      rec .block
      possibly <| node .clause do
        word "catch"
        possibly do
          mark "("
          rec .pattern
          possibly (typeClause rec .bracketed)
          mark ")"
        rec .block
      possibly <| node .clause (do word "finally"; rec .block)
    | "return" =>
      if !(← breaks false) then possibly (rec (.expression {}))
      terminator true [";"]
    | "throw" =>
      rec (.expression {})
      terminator true [";"]
    | "break" | "continue" =>
      if !(← breaks false) then possibly identifier
      terminator false [";"]
    | "debugger" => terminator false [";"]
    | _ => failure

def labelledStatement (rec : Productions) : Parser Unit :=
  node .statement do
    identifier
    mark ":"
    rec .statement

def controlWords : List String :=
  ["if", "for", "while", "with", "do", "switch", "try", "return", "throw", "break", "continue",
    "debugger"]

def statement (rec : Productions) : Parser Unit := do
  match ← look with
  | [] => failure
  | '\x7b' :: _ => rec .block
  | ';' :: _ => node .statement (mark ";")
  | '<' :: '!' :: _ => lexeme .markupComment markupCommentLength
  | '-' :: '-' :: '>' :: _ => lexeme .markupComment markupCommentLength
  | '@' :: _ => exportStatement rec <|> declaration rec <|> expressionStatement rec
  | _ =>
    let w ← lookWord
    if controlWords.contains w then controlStatement rec w
    else if w = "import" then importStatement rec <|> importAlias <|> expressionStatement rec
    else if w = "export" then exportStatement rec
    else declaration rec <|> labelledStatement rec <|> expressionStatement rec

end PropForge.TypeScript
