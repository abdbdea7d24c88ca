/-!
How a text is written into the places of generated files: string literals, attributes, comments
and table cells.
-/

namespace PropForge.Text

def literalChar : Char → List Char
  | '\\' => ['\\', '\\']
  | '"' => ['\\', '"']
  | '\r' => ['\\', 'r']
  | '\n' => ['\\', 'n']
  | c => [c]

/-- Between the quotes of a string literal. -/
def inLiteral (cs : List Char) : List Char := cs.flatMap literalChar

def attributeChar : Char → List Char
  | '&' => "&amp;".toList
  | '"' => "&quot;".toList
  | c => [c]

/-- Between the quotes of an attribute. -/
def inAttribute (cs : List Char) : List Char := cs.flatMap attributeChar

/-- Inside a block comment: on one line, without the mark that would end it. -/
def inComment : List Char → List Char
  | [] => []
  | '*' :: '/' :: rest => '*' :: '\\' :: '/' :: inComment rest
  | '\n' :: rest => ' ' :: inComment rest
  | c :: rest => c :: inComment rest

def cellChar : Char → List Char
  | '|' => ['\\', '|']
  | '\r' => [' ']
  | '\n' => [' ']
  | c => [c]

/-- Inside a cell of a table. -/
def inCell (cs : List Char) : List Char := cs.flatMap cellChar

end PropForge.Text
