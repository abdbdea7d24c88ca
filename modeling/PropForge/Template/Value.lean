import PropForge.Number.Digits
import PropForge.Text.SingleQuoted

/-!
The values that templates compute with, and their text. Values of the same shape may be of
different types: a record knows what it is called in messages.
-/

namespace PropForge.Template

inductive Value where
  | nothing
  | flag (value : Bool)
  | number (value : Nat)
  | text (value : String)
  | list (items : List Value)
  | tuple (items : List Value)
  /-- A record's own fields, and those derived from them. -/
  | record (type : String) (fields derived : List (String × Value))
  /-- What is missing, with the message of its absence. -/
  | missing (message : String)

namespace Value

/-- The name of a record's type without the modules before it. -/
def shortType (type : String) : String :=
  String.ofList ((type.toList.reverse.takeWhile (· ≠ '.')).reverse)

mutual

/-- A value as it looks inside another one. -/
def shown (v : Value) : String :=
  match v with
  | nothing => "None"
  | flag b => if b then "True" else "False"
  | number n => String.ofList (Number.digits n)
  | text s => Text.shown s
  | list items => "[" ++ shownItems items ++ "]"
  | tuple [item] => "(" ++ shown item ++ ",)"
  | tuple items => "(" ++ shownItems items ++ ")"
  | record type fields _ => shortType type ++ "(" ++ shownFields fields ++ ")"
  | missing _ => "Undefined"

def shownItems (items : List Value) : String :=
  match items with
  | [] => ""
  | [item] => shown item
  | item :: rest => shown item ++ ", " ++ shownItems rest

def shownFields (fields : List (String × Value)) : String :=
  match fields with
  | [] => ""
  | [(name, value)] => name ++ "=" ++ shown value
  | (name, value) :: rest => name ++ "=" ++ shown value ++ ", " ++ shownFields rest

end

/-- The text of a value where it is printed. -/
def print : Value → String
  | text s => s
  | v => v.shown

/-- What a value is called in messages about its fields. -/
def typeName : Value → String
  | nothing => "None"
  | flag _ => "bool object"
  | number _ => "int object"
  | text _ => "str object"
  | list _ => "list object"
  | tuple _ => "tuple object"
  | record type _ _ => type ++ " object"
  | missing _ => "undefined"

/-- What a value is called in messages about its type. -/
def kindName : Value → String
  | nothing => "NoneType"
  | flag _ => "bool"
  | number _ => "int"
  | text _ => "str"
  | list _ => "list"
  | tuple _ => "tuple"
  | record type _ _ => shortType type
  | missing _ => "StrictUndefined"

/-- A named field, or what is missing without it. -/
def field (name : String) (v : Value) : Value :=
  let absent := missing s!"{Text.shown v.typeName} has no attribute {Text.shown name}"
  match v with
  | record _ fields derived =>
    match (fields ++ derived).find? fun (n, _) => n = name with
    | some (_, value) => value
    | none => absent
  | _ => absent

/-- A numbered item, or what is missing without it. -/
def item (index : Nat) (v : Value) : Value :=
  let number := String.ofList (Number.digits index)
  let absent := missing s!"{v.typeName} has no element {number}"
  match v with
  | list items | tuple items => (items[index]?).getD absent
  | text s => (s.toList[index]?.map fun c => text (String.ofList [c])).getD absent
  | _ => absent

end Value

/-- Why a template cannot be rendered. -/
inductive Error where
  /-- Something that is not there was used. -/
  | undefined (message : String)
  /-- No template of that name is in the directories searched. None is searched for a name that
  leads out of them. -/
  | noTemplate (name : String) (directories : List String)
  /-- A template names a filter that does not exist. -/
  | noFilter (name : String)
  /-- A filter that does not exist was reached in a branch. -/
  | noFilterHere (name : String)
  /-- A value has the wrong type for what is done with it. -/
  | badType (message : String)
  /-- A text is not a template. -/
  | malformed (line : Nat) (message : String)
  /-- A template file is no text. -/
  | undecodable (message : String)
  /-- Templates insert each other without end. -/
  | tooDeep
  deriving DecidableEq, Repr

def Error.message : Error → String
  | undefined m => m
  | noTemplate name [] => name
  | noTemplate name directories =>
    let plural := if directories.length = 1 then "path" else "paths"
    let searched := ", ".intercalate (directories.map Text.shown)
    s!"{Text.shown name} not found in search {plural}: {searched}"
  | noFilter name => s!"No filter named {Text.shown name}."
  | noFilterHere name => s!"No filter named {Text.shown name} found."
  | badType m => m
  | malformed _ m => m
  | undecodable m => m
  | tooDeep => "maximum recursion depth exceeded"

namespace Value

/-- Refuses what is missing. -/
def required : Value → Except Error Value
  | missing m => .error (.undefined m)
  | v => .ok v

/-- Whether a value counts as true. -/
def truthy : Value → Except Error Bool
  | nothing => .ok false
  | flag b => .ok b
  | number n => .ok (n ≠ 0)
  | text s => .ok (s ≠ "")
  | list items => .ok (!items.isEmpty)
  | tuple items => .ok (!items.isEmpty)
  | record .. => .ok true
  | missing m => .error (.undefined m)

/-- The items that a loop runs over. -/
def items : Value → Except Error (List Value)
  | list items => .ok items
  | tuple items => .ok items
  | text s => .ok (s.toList.map fun c => text (String.ofList [c]))
  | missing m => .error (.undefined m)
  | v => .error (.badType s!"{Text.shown v.kindName} object is not iterable")

mutual

def same (v w : Value) : Bool :=
  match v, w with
  | nothing, nothing => true
  | flag a, flag b => a = b
  | number a, number b => a = b
  | text a, text b => a = b
  | list a, list b => sameItems a b
  | tuple a, tuple b => sameItems a b
  | record s a _, record t b _ => s = t && sameFields a b
  | _, _ => false

def sameItems (a b : List Value) : Bool :=
  match a, b with
  | [], [] => true
  | v :: a, w :: b => same v w && sameItems a b
  | _, _ => false

def sameFields (a b : List (String × Value)) : Bool :=
  match a, b with
  | [], [] => true
  | (m, v) :: a, (n, w) :: b => m = n && same v w && sameFields a b
  | _, _ => false

end

end Value

end PropForge.Template
