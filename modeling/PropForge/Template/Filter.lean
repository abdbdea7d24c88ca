import PropForge.Naming
import PropForge.Template.Value
import PropForge.Text.Escapes

/-!
Filters: functions from text to text by the names templates use for them.
-/

namespace PropForge.Template

/-- What a filter does with a value that is no text. -/
inductive NonText where
  /-- Prints it first. -/
  | printed
  /-- Matches it as a name. -/
  | matched
  /-- Cuts it. -/
  | cut
  /-- Searches it. -/
  | searched

/-- A filter on texts. -/
structure Filter where
  run : String → String
  nonText : NonText

/-- The control that edits a prop of a type. -/
def controlType (type : String) : String :=
  if Text.occursIn "boolean" type then "boolean"
  else if Text.occursIn "string" type then "text"
  else if Text.occursIn "number" type then "number"
  else "text"

def onChars (f : List Char → List Char) (s : String) : String := String.ofList (f s.toList)

/-- A text between the quotes of a string literal. -/
def literalText : String → String := onChars Text.inLiteral

/-- A text between the quotes of an attribute. -/
def attributeText : String → String := onChars Text.inAttribute

/-- A text inside a block comment. -/
def commentText : String → String := onChars Text.inComment

/-- A text inside a cell of a table. -/
def cellText : String → String := onChars Text.inCell

/-- The filters on texts, by name. -/
def filters : List (String × Filter) :=
  [("js_string", ⟨literalText, .printed⟩),
    ("jsx_attr", ⟨attributeText, .printed⟩),
    ("doc_comment", ⟨commentText, .printed⟩),
    ("md_cell", ⟨cellText, .printed⟩),
    ("ts_literal", ⟨Naming.literal, .printed⟩),
    ("prop_key", ⟨Naming.propKey, .matched⟩),
    ("destructure", ⟨Naming.destructured, .matched⟩),
    ("local_name", ⟨Naming.localName, .matched⟩),
    ("control_type", ⟨controlType, .searched⟩),
    ("upper_first", ⟨Text.upperFirst, .cut⟩),
    ("lower_first", ⟨Text.lowerFirst, .cut⟩)]

def filter? (name : String) : Option Filter :=
  (filters.find? fun (n, _) => n = name).map (·.2)

/-- Filters that work on lists. -/
def listFilters : List String := ["join", "map"]

def isFilter (name : String) : Bool := (filter? name).isSome || listFilters.contains name

/-- Applies a filter to a value of any type. -/
def Filter.apply (f : Filter) (v : Value) : Except Error Value := do
  match ← v.required, f.nonText with
  | .text s, _ => return .text (f.run s)
  | v, .printed => return .text (f.run v.print)
  | v, .matched =>
    .error (.badType s!"expected string or bytes-like object, got {Text.shown v.kindName}")
  | v, .cut => .error (.badType s!"{Text.shown v.kindName} object is not subscriptable")
  | .list _, .searched | .tuple _, .searched => return .text "text"
  | v, .searched =>
    .error (.badType s!"argument of type {Text.shown v.kindName} is not iterable")

/-- The texts of values, with a separator between each two. -/
def joined (separator : String) (items : List Value) : Except Error Value := do
  let texts ← items.mapM fun v => return (← v.required).print
  return .text (separator.intercalate texts)

end PropForge.Template
