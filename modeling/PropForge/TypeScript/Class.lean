import PropForge.TypeScript.Type

/-!
Patterns, function bodies and classes: the parts that expressions and declarations share.
-/

namespace PropForge.TypeScript

open PropForge.TypeScript.Parser

/-- A pattern with the value it takes where there is nothing to match. -/
def patternElement (rec : Productions) : Parser Unit :=
  node .restPattern (do mark "..."; rec .pattern) <|> do
    let start ← place
    rec .pattern
    possibly do
      mark "="
      rec (.operand .bracketed)
      start.wrap .defaultPattern
    start.finish

/-- An element of an array pattern, which may be left out. -/
def patternSlot (rec : Productions) : Parser Unit := do
  if (← look).head? = some ',' then modify (·.leaf .hole 0) else patternElement rec
  mark "," <|> do if (← look).head? ≠ some ']' then failure

def patternProperty (rec : Productions) : Parser Unit :=
  node .restPattern (do mark "..."; rec .pattern) <|> do
    let start ← place
    (do
      memberName rec
      mark ":"
      patternElement rec
      start.wrap .keyedPattern) <|> do
        identifier
        possibly (do mark "="; rec (.operand .bracketed))
        start.wrap .shorthand
    start.finish

/-- What a declaration or a parameter binds. -/
def bindingPattern (rec : Productions) : Parser Unit := do
  match ← look with
  | '[' :: _ => node .arrayPattern (do mark "["; many (patternSlot rec); mark "]")
  | '\x7b' :: _ => node .objectPattern (do mark "\x7b"; listUntil "\x7d" (patternProperty rec))
  | _ => identifier

/-- The body of a method or function, or the end of its signature. -/
def bodyOrEnd (rec : Productions) : Parser Unit := do
  if (← look).head? = some '\x7b' then as .body (rec .block)
  else terminator false [";", ","]

def fieldOrMethod (rec : Productions) : Parser Unit := do
  modifiers ["public", "private", "protected", "declare", "static", "override", "readonly",
    "abstract", "accessor", "async", "get", "set"]
  possibly (mark "*")
  as .name (memberName rec)
  possibly (mark "?" <|> mark "!")
  let broken ← breaks false
  match ← look with
  | '(' :: _ | '<' :: _ =>
    if broken then return
    callSignature rec {}
    bodyOrEnd rec
  | _ =>
    possibly (as .type (typeClause rec {}))
    let set ← tried (do mark "="; as .value (rec (.operand {})))
    terminator set [";", ","]

def classMember (rec : Productions) : Parser Unit :=
  node .classMember do
    many (decorator rec)
    (do word "static"; as .body (rec .block)) <|>
      (do indexSignature rec; terminator false [";", ","]) <|>
      fieldOrMethod rec

def classBody (rec : Productions) : Parser Unit :=
  node .classBody do
    mark "\x7b"
    many (mark ";" <|> classMember rec)
    mark "\x7d"

def classHeritage (rec : Productions) : Parser Unit := do
  possibly <| node .classHeritage do
    word "extends"
    separated "," do
      as .value (rec (.leftHand true .bracketed))
      possibly (as .typeArguments (typeArguments rec))
  possibly <| node .classHeritage do
    word "implements"
    separated "," (rec (.type .bracketed))

/-- What follows the name of a class. -/
def classTail (rec : Productions) : Parser Unit := do
  possibly (typeParameters rec)
  classHeritage rec
  as .body (classBody rec)

def className : Parser Unit := do
  if ["extends", "implements"].contains (← lookWord) then failure
  as .name (anyName .typeName)

def classExpression (rec : Productions) : Parser Unit :=
  node .classExpression do
    many (decorator rec)
    word "class"
    possibly className
    classTail rec

def functionExpression (rec : Productions) : Parser Unit :=
  node .functionExpression do
    possibly (word "async")
    word "function"
    possibly (mark "*")
    possibly (as .name identifier)
    callSignature rec .bracketed
    as .body (rec .block)

end PropForge.TypeScript
