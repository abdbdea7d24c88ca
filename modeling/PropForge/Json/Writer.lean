import PropForge.Json.Basic
import PropForge.Number.Shortest
import PropForge.Text.Quoted

/-!
JSON values as text, one item to a line, indented by two spaces a level.
-/

namespace PropForge.Json

def realText (x : Number.Binary64) : List Char := x.text "Infinity" "NaN"

/-- A line break with the indentation of a level. -/
def newLine (level : Nat) : List Char := '\n' :: List.replicate (2 * level) ' '

mutual

/-- The text of a value that stands at a level. -/
def write (level : Nat) (v : Json) : List Char :=
  match v with
  | null => "null".toList
  | bool b => if b then "true".toList else "false".toList
  | integer n => Number.decimal n
  | real x => realText x
  | string s => Text.quoted s.toList
  | array [] => ['[', ']']
  | array (item :: rest) =>
    '[' :: (newLine (level + 1) ++ write (level + 1) item ++ writeItems (level + 1) rest ++
      newLine level ++ [']'])
  | object [] => ['\x7b', '\x7d']
  | object ((name, value) :: rest) =>
    '\x7b' :: (newLine (level + 1) ++ Text.quoted name.toList ++ ':' :: ' ' ::
      write (level + 1) value ++ writeFields (level + 1) rest ++ newLine level ++ ['\x7d'])

def writeItems (level : Nat) (items : List Json) : List Char :=
  match items with
  | [] => []
  | item :: rest => ',' :: (newLine level ++ write level item ++ writeItems level rest)

def writeFields (level : Nat) (fields : List (String × Json)) : List Char :=
  match fields with
  | [] => []
  | (name, value) :: rest =>
    ',' :: (newLine level ++ Text.quoted name.toList ++ ':' :: ' ' :: write level value ++
      writeFields level rest)

end

/-- The text of a value as a document, which ends with a line break. -/
def document (v : Json) : String := String.ofList (write 0 v ++ ['\n'])

end PropForge.Json
