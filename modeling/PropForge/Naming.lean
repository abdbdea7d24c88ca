import PropForge.Text.Case
import PropForge.Text.Quoted
import PropForge.Text.Search

/-!
Names in generated code: which texts are identifiers, and how identifiers are made from texts that
are none.
-/

namespace PropForge.Naming

def isIdentifierStart (c : Char) : Bool := c.isAlpha || c = '_' || c = '$'

def isIdentifierPart (c : Char) : Bool := c.isAlphanum || c = '_' || c = '$'

/-- Whether all of a text is an identifier of ASCII. -/
def isStrictIdentifier : List Char → Bool
  | c :: rest => isIdentifierStart c && rest.all isIdentifierPart
  | [] => false

/-- The text without one line feed at its end. -/
def dropFinalNewline (cs : List Char) : List Char :=
  if cs.getLast? = some '\n' then cs.dropLast else cs

/-- Whether a text passes for an identifier. One line feed at its end is overlooked. -/
def isIdentifier (s : String) : Bool :=
  isStrictIdentifier s.toList || isStrictIdentifier (dropFinalNewline s.toList)

/-- The runs of letters and digits of ASCII in a text. -/
def words (s : String) : List String :=
  (Text.words (!·.isAlphanum) s.toList).map String.ofList

/-- The name under which generated code binds a prop: the prop's own name, or its words run
together, each but the first with a capital. -/
def localName (prop : String) : String :=
  if isIdentifier prop then prop
  else match words prop with
    | [] => "value"
    | word :: rest =>
      let name := word ++ String.join (rest.map Text.upperFirst)
      if isIdentifier name then name else "_" ++ name

/-- The words of a text run together, each with a capital. -/
def pascalCase (s : String) : String :=
  let joined := String.join ((words s).map Text.upperFirst)
  let name := if joined = "" then "Value" else joined
  if isIdentifier name then name else "Value" ++ name

/-- A name with underscores between its words, with capitals in their place. -/
def camelCase (key : String) : String :=
  match Text.splitOn (· = '_') key.toList with
  | [] => key
  | first :: rest =>
    String.ofList first ++ String.join (rest.map fun w => Text.upperFirst (String.ofList w))

/-- A text as a string literal. -/
def literal (s : String) : String := String.ofList (Text.quoted s.toList)

/-- A prop as the key of an object type: bare if it can be, or else as a literal. -/
def propKey (name : String) : String := if isIdentifier name then name else literal name

/-- A prop in a destructuring pattern, renamed if its name cannot be bound. -/
def destructured (name : String) : String :=
  if isIdentifier name then name else literal name ++ ": " ++ localName name

end PropForge.Naming
