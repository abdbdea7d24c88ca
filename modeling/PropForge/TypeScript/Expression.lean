import PropForge.TypeScript.Class
import PropForge.TypeScript.Markup

/-!
Expressions. Binary operators are grouped by their level; a call, a member or an index binds its
left side as far as it reaches.
-/

namespace PropForge.TypeScript

open PropForge.TypeScript.Parser

/-- The binary operators that are marks, longer ones first, with their levels. -/
def binaryMarks : List (String × Nat) :=
  [(">>>", 10), ("===", 8), ("!==", 8), ("**", 13), ("<<", 10), (">>", 10), ("<=", 9), (">=", 9),
    ("==", 8), ("!=", 8), ("&&", 4), ("||", 3), ("??", 2), ("*", 12), ("/", 12), ("%", 12),
    ("+", 11), ("-", 11), ("<", 9), (">", 9), ("&", 7), ("^", 6), ("|", 5)]

/-- The level of `in`, `instanceof`, `as` and `satisfies`. -/
def wordLevel : Nat := 9

/-- The operator that groups to the right. -/
def powerLevel : Nat := 13

def assignmentMarks : List String :=
  [">>>=", "**=", "<<=", ">>=", "&&=", "||=", "??=", "+=", "-=", "*=", "/=", "%=", "^=", "&=",
    "|=", "="]

/-- The binary operator ahead. An operator joined to an equals sign assigns, unless it
compares. -/
def binaryMark? (cs : List Char) : Option (String × Nat) := do
  let (m, level) ← binaryMarks.find? fun (m, _) => m.toList.isPrefixOf cs
  let compares := level = 8 || level = 9
  if !compares && (cs.drop m.length).head? = some '=' then none else some (m, level)

def assignmentMark? (cs : List Char) : Option String := do
  let m ← assignmentMarks.find? fun m => m.toList.isPrefixOf cs
  if m = "=" && ["==", "=>"].any (·.toList.isPrefixOf cs) then none else some m

def objectMember (rec : Productions) : Parser Unit :=
  spread rec <|> do
    let start ← place
    modifiers ["async", "get", "set", "static"]
    possibly (mark "*")
    as .name (memberName rec)
    match ← look with
    | '(' :: _ | '<' :: _ =>
      callSignature rec .bracketed
      as .body (rec .block)
      start.wrap .method
    | ':' :: _ =>
      mark ":"
      as .value (rec (.operand .bracketed))
      start.wrap .pair
    | _ =>
      possibly (do mark "="; as .value (rec (.operand .bracketed)))
      start.wrap .shorthand
    start.finish

/-- `new` before what it constructs; calls bind to the construction, not to its target. -/
def construction (rec : Productions) (mode : Mode) : Parser Unit := do
  let start ← place
  word "new"
  (do mark "."; word "target"; start.wrap .metaProperty) <|> do
    rec (.leftHand false mode)
    possibly (as .typeArguments (typeArguments rec))
    possibly (do sameLine mode true; as .arguments (arguments rec))
    start.wrap .construction
  start.finish

/-- A word of the language that stands for a value. -/
def valueWord (kind : Kind) (w : String) : Parser Unit := do
  if (← lookWord) ≠ w then failure
  lexeme kind nameLength

def importExpression : Parser Unit := do
  let start ← place
  valueWord .importWord "import"
  possibly (do mark "."; word "meta"; start.wrap .metaProperty)
  start.finish

def primaryExpression (rec : Productions) (mode : Mode) : Parser Unit := do
  match ← look with
  | '(' :: _ =>
    node .parenthesized do
      mark "("
      rec (.expression .bracketed)
      possibly (typeClause rec .bracketed)
      mark ")"
  | '[' :: _ =>
    node .array (do mark "["; listUntil "]" (spread rec <|> rec (.operand .bracketed)))
  | '\x7b' :: _ => node .object (do mark "\x7b"; listUntil "\x7d" (objectMember rec))
  | '\x60' :: _ => template .template (rec (.expression .bracketed))
  | '/' :: _ => lexeme .regex regexLength
  | '<' :: _ => rec .element
  | '@' :: _ => classExpression rec
  | '#' :: _ => privateName
  | c :: _ =>
    if c = '"' || c = '\'' then stringLiteral
    else if c.isDigit || c = '.' then number
    else match ← lookWord with
      | "function" => functionExpression rec
      | "async" => functionExpression rec <|> identifier
      | "class" => classExpression rec
      | "new" => construction rec mode
      | "import" => importExpression
      | "super" => valueWord .superWord "super"
      | "this" | "null" | "true" | "false" => lexeme .literal nameLength
      | _ => identifier
  | [] => failure

/-- Marks after which type arguments may end an expression. -/
def endsInstantiation (cs : List Char) : Bool :=
  match cs with
  | [] => true
  | c :: _ => [')', ']', '\x7d', ',', ';', ':'].contains c

/-- Type arguments before a call, or at the end of an expression. -/
def typeArgumentSuffix (rec : Productions) (start : Place) : Parser Unit := do
  labelled .function
  as .typeArguments (typeArguments rec)
  match ← look with
  | '(' :: _ =>
    as .arguments (arguments rec)
    start.wrap .call
  | cs => if endsInstantiation cs || (← breaks true) then start.wrap .instantiation else failure

/-- A call, an index or a member that is skipped where there is nothing to step into. -/
def optionalSuffix (rec : Productions) (start : Place) : Parser Unit :=
  (do
    labelled .function
    mark "?."
    possibly (as .typeArguments (typeArguments rec))
    as .arguments (arguments rec)
    start.wrap .call) <|>
  (do
    labelled .object
    mark "?."
    mark "["
    rec (.expression .bracketed)
    mark "]"
    start.wrap .subscript) <|>
  (do
    labelled .object
    mark "?."
    as .property (privateName <|> anyName .propertyName)
    start.wrap .member)

/-- One member, index or assertion after what was read since `start`. -/
def accessSuffix (rec : Productions) (start : Place) : Parser Unit := do
  match ← look with
  | '.' :: '.' :: _ => failure
  | '.' :: _ =>
    labelled .object
    mark "."
    as .property (privateName <|> anyName .propertyName)
    start.wrap .member
  | '[' :: _ =>
    labelled .object
    mark "["
    rec (.expression .bracketed)
    mark "]"
    start.wrap .subscript
  | '!' :: '=' :: _ => failure
  | '!' :: _ =>
    mark "!"
    start.wrap .nonNull
  | _ => failure

/-- One call after what was read since `start`, or an optional step. -/
def callSuffix (rec : Productions) (start : Place) : Parser Unit := do
  match ← look with
  | '?' :: '.' :: c :: _ => if c.isDigit then failure else optionalSuffix rec start
  | '(' :: _ =>
    labelled .function
    as .arguments (arguments rec)
    start.wrap .call
  | '\x60' :: _ =>
    labelled .function
    as .arguments (template .template (rec (.expression .bracketed)))
    start.wrap .call
  | '<' :: _ => typeArgumentSuffix rec start
  | _ => failure

def leftHand (rec : Productions) (calls : Bool) (mode : Mode) : Parser Unit := do
  let start ← place
  primaryExpression rec mode
  many do
    sameLine mode true
    accessSuffix rec start <|> if calls then callSuffix rec start else failure
  start.finish

def postfixExpression (rec : Productions) (mode : Mode) : Parser Unit := do
  let start ← place
  rec (.leftHand true mode)
  possibly do
    sameLine mode true
    mark "++" <|> mark "--"
    start.wrap .update
  start.finish

def unaryExpression (rec : Productions) (mode : Mode) : Parser Unit := do
  match ← look with
  | '+' :: '+' :: _ => node .update (do mark "++"; rec (.unary mode))
  | '-' :: '-' :: _ => node .update (do mark "--"; rec (.unary mode))
  | '+' :: _ => node .unary (do mark "+"; rec (.unary mode))
  | '-' :: _ => node .unary (do mark "-"; rec (.unary mode))
  | '!' :: _ => node .unary (do mark "!"; rec (.unary mode))
  | '~' :: _ => node .unary (do mark "~"; rec (.unary mode))
  | '<' :: _ =>
    if (← get).dialect = .plain then
      node .cast do
        typeArguments rec
        rec (.unary mode)
    else postfixExpression rec mode
  | _ =>
    let w ← lookWord
    if ["typeof", "void", "delete"].contains w then node .unary (do word w; rec (.unary mode))
    else if w = "await" then
      node .await (do word w; rec (.unary mode)) <|> postfixExpression rec mode
    else postfixExpression rec mode

/-- The next operator and operand after what was read since `start`, if its level is at least
`level`. -/
def binaryStep (rec : Productions) (level : Nat) (mode : Mode) (start : Place) : Parser Unit := do
  sameLine mode true
  match ← lookWord with
  | "in" =>
    if wordLevel < level || !mode.inOperator then failure
    word "in"
    rec (.binary (wordLevel + 1) mode)
    start.wrap .binary
  | "instanceof" =>
    if wordLevel < level then failure
    word "instanceof"
    rec (.binary (wordLevel + 1) mode)
    start.wrap .binary
  | "as" =>
    if wordLevel < level then failure
    word "as"
    word "const" <|> rec (.type { mode with conditional := true })
    start.wrap .asserted
  | "satisfies" =>
    if wordLevel < level then failure
    word "satisfies"
    rec (.type { mode with conditional := true })
    start.wrap .satisfied
  | _ => match binaryMark? (← look) with
    | none => failure
    | some (m, l) =>
      if l < level then failure
      mark m
      rec (.binary (if l = powerLevel then l else l + 1) mode)
      start.wrap .binary

def binaryExpression (rec : Productions) (level : Nat) (mode : Mode) : Parser Unit := do
  let start ← place
  rec (.unary mode)
  many (binaryStep rec level mode start)
  start.finish

/-- What an arrow function takes, up to its arrow. -/
def arrowHead (rec : Productions) (mode : Mode) : Parser Unit := do
  (do as .name identifier; mark "=>") <|> do
    possibly (typeParameters rec)
    parameters rec
    if mode.arrowResult then possibly (typeClause rec .bracketed)
    mark "=>"

/-- An arrow function; says whether its body is a block. -/
def arrowFunction (rec : Productions) (mode : Mode) : Parser Bool :=
  node .arrowFunction do
    (do word "async"; arrowHead rec mode) <|> arrowHead rec mode
    let inBraces := (← look).head? = some '\x7b'
    as .body (rec (if inBraces then .block else .operand mode))
    return inBraces

def yieldExpression (rec : Productions) (mode : Mode) : Parser Unit :=
  node .yield do
    word "yield"
    if ← breaks false then return
    possibly do
      possibly (mark "*")
      rec (.operand mode)

/-- The branches of a condition. The first branch is read with result types on its arrow functions
unless that leaves no colon for the condition. -/
def branches (rec : Productions) (mode : Mode) : Parser Unit := do
  mark "?"
  (do rec (.operand .bracketed); mark ":") <|> do
    rec (.operand { lineEnd := false, arrowResult := false })
    mark ":"
  rec (.operand mode)

/-- The branches of a condition, or an assignment, after what was read since `start`. -/
def choiceSuffix (rec : Productions) (mode : Mode) (start : Place) : Parser Unit := do
  match ← look with
  | '?' :: '.' :: c :: _ =>
    if c.isDigit then
      branches rec mode
      start.wrap .conditional
  | '?' :: '?' :: '=' :: _ =>
    mark "??="
    rec (.operand mode)
    start.wrap .assignment
  | '?' :: _ =>
    branches rec mode
    start.wrap .conditional
  | cs => match assignmentMark? cs with
    | some m =>
      mark m
      as .value (rec (.operand mode))
      start.wrap .assignment
    | none => pure ()

/-- What goes on after an arrow function whose body is a block: a line break before a bracket does
not end it. -/
def arrowSuffix (rec : Productions) (mode : Mode) (start : Place) : Parser Unit := do
  many do
    sameLine mode true
    accessSuffix rec start <|> callSuffix rec start
  many (binaryStep rec 0 mode start)
  possibly do
    sameLine mode true
    choiceSuffix rec mode start

def operandExpression (rec : Productions) (mode : Mode) : Parser Unit := do
  let start ← place
  (do if ← arrowFunction rec mode then arrowSuffix rec mode start) <|>
    yieldExpression rec mode <|> do
      rec (.binary 0 mode)
      choiceSuffix rec mode start
  start.finish

/-- Operands between commas. -/
def commaExpression (rec : Productions) (mode : Mode) : Parser Unit := do
  let start ← place
  rec (.operand mode)
  let one := (← get).offset
  many do
    sameLine mode true
    mark ","
    rec (.operand mode)
  if one < (← get).offset then start.wrap .sequence
  start.finish

end PropForge.TypeScript
