import PropForge.TypeScript.Type

/-!
Elements of markup inside expressions. Text between tags is raw: nothing in it is a comment, and
it ends at the next tag or brace.
-/

namespace PropForge.TypeScript

open PropForge.TypeScript.Parser

/-- Names in markup may contain hyphens. -/
def markupNameLength : List Char → Nat
  | c :: rest =>
    if isNameStart c then (rest.takeWhile fun d => isNameChar d || d = '-').length + 1 else 0
  | [] => 0

def markupName (kind : Kind) : Parser Unit := lexeme kind markupNameLength

/-- The name of a tag: a path of members, or a name with its namespace. -/
def tagName : Parser Unit := do
  let start ← place
  markupName .identifier
  possibly (do mark ":"; markupName .propertyName)
  many do
    labelled .object
    mark "."
    as .property (markupName .propertyName)
    start.wrap .member
  start.finish

/-- An expression in braces, which may be empty or spread. -/
def bracedExpression (rec : Productions) : Parser Unit :=
  node .jsxExpression do
    mark "\x7b"
    possibly (mark "...")
    possibly (rec (.expression .bracketed))
    mark "\x7d"

def tagAttribute (rec : Productions) : Parser Unit :=
  bracedExpression rec <|>
    node .jsxAttribute do
      markupName .propertyName
      possibly (do mark ":"; markupName .propertyName)
      possibly do
        mark "="
        lexeme .string attributeLength <|> bracedExpression rec <|> rec .element

/-- An opening tag; says whether it also closes the element. -/
def openingTag (rec : Productions) : Parser Bool :=
  node .jsxTag do
    mark "<"
    let named ← tried do
      tagName
      possibly (typeArguments rec)
      many (tagAttribute rec)
    let closed ← if named then tried (mark "/") else pure false
    mark ">"
    return closed

def closingTag : Parser Unit :=
  node .jsxTag do
    mark "<"
    mark "/"
    possibly tagName
    mark ">"

def markupText : Parser Unit :=
  immediate .jsxText fun cs => (cs.takeWhile fun c => c ≠ '<' && c ≠ '\x7b').length

def element (rec : Productions) : Parser Unit :=
  node .jsxElement do
    if !(← openingTag rec) then
      many (markupText <|> bracedExpression rec <|> rec .element)
      closingTag

end PropForge.TypeScript
