import PropForge.Assoc
import PropForge.Number.Binary64

/-!
JSON values. Whole numbers have no bound and stay apart from numbers with a fraction or an
exponent; the fields of an object are in order, each name once.
-/

namespace PropForge

open Number (Binary64)

inductive Json where
  | null
  | bool (value : Bool)
  | integer (value : Int)
  | real (value : Binary64)
  | string (value : String)
  | array (items : List Json)
  | object (fields : List (String × Json))
  deriving Repr, Inhabited

namespace Json

/-- A field of an object. -/
def field? (name : String) : Json → Option Json
  | object fields => Assoc.get? name fields
  | _ => none

/-- A text, or nothing. -/
def ofOption : Option String → Json
  | some s => string s
  | none => null

def strings (ss : List String) : Json := array (ss.map string)

/-- Whether a value counts as true where a condition is wanted: neither nothing, nor false, nor
zero, nor empty. -/
def truthy : Json → Bool
  | null => false
  | bool b => b
  | integer n => n ≠ 0
  | real (.finite _ u) => u ≠ 0
  | real _ => true
  | string s => s ≠ ""
  | array items => !items.isEmpty
  | object fields => !fields.isEmpty

end Json

end PropForge
