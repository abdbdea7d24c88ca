import PropForge.Template.Basic
import PropForge.Template.Filter

/-!
Rendering: the text of a template where its names have given values. Templates that insert others
are rendered with the same names; how a name leads to a template is the caller's.
-/

namespace PropForge.Template

/-- The values of names, the innermost first. -/
abbrev Scope := List (String × Value)

def lookup (scope : Scope) (name : String) : Value :=
  match scope.find? fun (n, _) => n = name with
  | some (_, v) => v
  | none => .missing s!"{Text.shown name} is undefined"

/-- A path of field names between dots. -/
def fieldPath (path : String) (v : Value) : Value :=
  (Text.splitOn (· = '.') path.toList).foldl (fun v name => v.field (String.ofList name)) v

/-- Applies a filter of one of the names by which templates know it. -/
def applyFilter (name : String) (v : Value) (arguments : List Value)
    (named : List (String × Value)) : Except Error Value := do
  match name with
  | "join" =>
    let items ← v.items
    let items := match named.find? fun (n, _) => n = "attribute" with
      | some (_, .text path) => items.map (fieldPath path)
      | _ => items
    joined (match arguments with
      | separator :: _ => separator.print
      | [] => "") items
  | "map" =>
    let items ← v.items
    match named, arguments with
    | ("attribute", .text path) :: _, _ => return .list (items.map (fieldPath path))
    | _, .text f :: _ =>
      match filter? f with
      | some f => return .list (← items.mapM f.apply)
      | none => .error (.noFilter f)
    | _, _ => .error (.badType "map requires a filter argument")
  | _ =>
    match filter? name with
    | some f => f.apply v
    | none => .error (.noFilterHere name)

mutual

/-- The value of an expression. -/
def eval (template : String) (scope : Scope) (e : Expr) : Except Error Value :=
  match e with
  | .name n => .ok (lookup scope n)
  | .text s => .ok (.text s)
  | .number n => .ok (.number n)
  | .flag b => .ok (.flag b)
  | .nothing => .ok .nothing
  | .field owner name => do
    let v ← eval template scope owner
    return (← v.required).field name
  | .item owner index => do
    let v ← eval template scope owner
    match ← (← eval template scope index).required with
    | .number n => return (← v.required).item n
    | .text name => return (← v.required).field name
    | _ => .error (.badType "unsupported subscript")
  | .filter value name arguments named => do
    let v ← eval template scope value
    let arguments ← evalAll template scope arguments
    let named ← evalNamed template scope named
    applyFilter name v arguments named
  | .choose test yes no line => do
    if ← (← eval template scope test).truthy then eval template scope yes
    else match no with
      | some no => eval template scope no
      | none =>
        return .missing (s!"the inline if-expression on line {line} in {Text.shown template}" ++
          " evaluated to false and no else section was defined.")
  | .either first second => do
    let v ← eval template scope first
    if ← v.truthy then return v else eval template scope second
  | .both first second => do
    let v ← eval template scope first
    if ← v.truthy then eval template scope second else return v
  | .negation value => do
    let v ← eval template scope value
    return .flag (!(← v.truthy))
  | .equal first second => do
    let v ← (← eval template scope first).required
    let w ← (← eval template scope second).required
    return .flag (v.same w)

def evalAll (template : String) (scope : Scope) (es : List Expr) :
    Except Error (List Value) :=
  match es with
  | [] => .ok []
  | e :: rest => do
    let v ← eval template scope e
    return v :: (← evalAll template scope rest)

def evalNamed (template : String) (scope : Scope) (es : List (String × Expr)) :
    Except Error (List (String × Value)) :=
  match es with
  | [] => .ok []
  | (n, e) :: rest => do
    let v ← eval template scope e
    return (n, v) :: (← evalNamed template scope rest)

end

/-- What a loop knows about its turn. -/
def turn (index length : Nat) : Value :=
  .record "jinja2.runtime.LoopContext"
    [("index", .number (index + 1)), ("index0", .number index), ("first", .flag (index = 0)),
      ("last", .flag (index + 1 = length)), ("length", .number length)] []

/-- The items of a loop that pass its test. -/
def selected (template : String) (scope : Scope) (target : String) (test : Option Expr)
    (items : List Value) : Except Error (List Value) :=
  match test with
  | none => .ok items
  | some test =>
    items.filterM fun v => do (← eval template ((target, v) :: scope) test).truthy

/-- Runs a loop's body for each item in turn. -/
def eachTurn (body : Scope → Except Error String) (scope : Scope) (target : String)
    (length index : Nat) : List Value → Except Error String
  | [] => .ok ""
  | v :: rest => do
    let here ← body ((target, v) :: ("loop", turn index length) :: scope)
    return here ++ (← eachTurn body scope target length (index + 1) rest)

mutual

/-- The text of a piece. `insert` renders the templates that it names. -/
def renderPiece (insert : String → Scope → Except Error String) (template : String)
    (piece : Piece) (scope : Scope) : Except Error String :=
  match piece with
  | .text s => .ok s
  | .output e => do return (← (← eval template scope e).required).print
  | .branch test yes no => do
    if ← (← eval template scope test).truthy then renderPieces insert template yes scope
    else renderPieces insert template no scope
  | .loop target items test body otherwise => do
    let items ← (← eval template scope items).items
    let items ← selected template scope target test items
    if items.isEmpty then renderPieces insert template otherwise scope
    else eachTurn (renderPieces insert template body) scope target items.length 0 items
  | .insert name => insert name scope

def renderPieces (insert : String → Scope → Except Error String) (template : String)
    (pieces : List Piece) (scope : Scope) : Except Error String :=
  match pieces with
  | [] => .ok ""
  | piece :: rest => do
    let here ← renderPiece insert template piece scope
    return here ++ (← renderPieces insert template rest scope)

end

/-- How templates are found by their names. -/
abbrev Library := String → Except Error (List Piece)

/-- The text of a template of a library, which inserts others at most `depth` deep. -/
def render (library : Library) : Nat → String → Scope → Except Error String
  | 0, _, _ => .error .tooDeep
  | depth + 1, name, scope => do
    renderPieces (render library depth) name (← library name) scope

/-- Insertions nest no deeper than this. -/
def maxDepth : Nat := 200

end PropForge.Template
