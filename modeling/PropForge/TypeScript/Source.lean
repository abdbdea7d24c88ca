import PropForge.TypeScript.Statement

/-!
Sources: a text with the tree of its syntax. Every character sequence has a tree, because what no
statement begins with is skipped.
-/

namespace PropForge.TypeScript

/-- One production in terms of the productions it contains. -/
def production (rec : Productions) : Productions
  | .statement => statement rec
  | .block => block rec
  | .expression mode => commaExpression rec mode
  | .operand mode => operandExpression rec mode
  | .binary level mode => binaryExpression rec level mode
  | .unary mode => unaryExpression rec mode
  | .leftHand calls mode => leftHand rec calls mode
  | .type mode => typeExpression rec mode
  | .simpleType mode => simpleType rec mode
  | .pattern => bindingPattern rec
  | .element => element rec

/-- The productions, nested at most `depth` deep. -/
def productions : Nat → Productions
  | 0, _ => failure
  | depth + 1, goal => production (productions depth) goal

/-- Productions between two lexemes that nest: a chain from a statement down to a name, with room
to spare. -/
def goalsPerCharacter : Nat := 16

/-- The tree of a whole text. -/
def readTree (dialect : Dialect) (text : List Char) : Tree :=
  let limit := text.length + 1
  let start : State := ⟨dialect, limit, text, 0, []⟩
  let program : Parser Unit := do
    if (← get).rest.head? = some '\ufeff' then modify (·.advance 1)
    Parser.possibly (Parser.immediate .comment fun
      | '#' :: '!' :: rest => lineLength rest + 2
      | _ => 0)
    Parser.many (productions (goalsPerCharacter * limit) .statement <|> skipped <|>
      Parser.lexeme .unreadable fun cs => min 1 cs.length)
    Parser.trivia
  let children := match program.run start with
    | some (_, s) => s.built.reverse
    | none => []
  .node .program .plain ⟨0, text.length⟩ children

/-- A text with its tree. -/
structure Source where
  dialect : Dialect
  text : List Char
  tree : Tree

namespace Source

def ofText (dialect : Dialect) (text : String) : Source :=
  ⟨dialect, text.toList, readTree dialect text.toList⟩

/-- Whether a part of the text could not be read. -/
def isBroken (s : Source) : Bool := !(s.tree.sitesOf [.unreadable]).isEmpty

/-- The stretch of text that a node covers. -/
def slice (s : Source) (t : Tree) : String :=
  String.ofList ((s.text.drop t.span.start).take (t.span.stop - t.span.start))

end Source

end PropForge.TypeScript
