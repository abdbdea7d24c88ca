import PropForge.TypeScript.Tree
import PropForge.TypeScript.Lexeme

/-!
What productions of the grammar are made of. A parser moves over the characters of a source and
gathers the children of the node that is being read; it fails without a trace, so a choice between
two productions simply tries both. Productions that nest reach each other through a `Goal`, and
`TypeScript.Source` ties the knot.

Comments become children of the node that is open where they stand. A node never ends in a
comment unless the line break after it closes a statement.
-/

namespace PropForge.TypeScript

/-- Whether `<` may open an element of markup where an expression begins. -/
inductive Dialect where
  | plain | markup
  deriving DecidableEq, Repr

structure State where
  dialect : Dialect
  /-- No repetition takes more steps than the source has characters. -/
  limit : Nat
  rest : List Char
  offset : Nat
  /-- The children of the open node so far, latest first. -/
  built : List Tree

abbrev Parser := StateT State Option

/-- What the surroundings allow inside an expression or a type. -/
structure Mode where
  /-- A line break may end what is being read. -/
  lineEnd : Bool := true
  /-- The word `in` is an operator. -/
  inOperator : Bool := true
  /-- An arrow function may state the type of its result. -/
  arrowResult : Bool := true
  /-- A type may go on with `extends`. -/
  conditional : Bool := true

/-- Between brackets, only the closing bracket ends what is being read. -/
def Mode.bracketed : Mode := { lineEnd := false }

/-- The productions that contain each other. -/
inductive Goal where
  | statement
  | block
  | expression (mode : Mode)
  | operand (mode : Mode)
  | binary (level : Nat) (mode : Mode)
  | unary (mode : Mode)
  /-- With `calls`, arguments after a callee belong to it. -/
  | leftHand (calls : Bool) (mode : Mode)
  | type (mode : Mode)
  | simpleType (mode : Mode)
  | pattern
  | element

abbrev Productions := Goal → Parser Unit

namespace State

def advance (s : State) (n : Nat) : State :=
  { s with rest := s.rest.drop n, offset := s.offset + n }

def push (s : State) (t : Tree) : State :=
  { s with built := t :: s.built }

/-- Reads the next `n` characters as a node without children. -/
def leaf (s : State) (kind : Kind) (n : Nat) : State :=
  (s.advance n).push (.node kind .plain ⟨s.offset, s.offset + n⟩ [])

def pastBlanks (s : State) : State :=
  s.advance (s.rest.takeWhile isSpace).length

/-- Passes blanks and comments, up to `fuel` comments. -/
def pastComments : Nat → State → State
  | 0, s => s
  | fuel + 1, s =>
    let s := s.pastBlanks
    match commentLength s.rest with
    | 0 => s
    | n + 1 => pastComments fuel (s.leaf .comment (n + 1))

def pastTrivia (s : State) : State := s.pastComments s.limit

end State

/-- The characters after blanks, line breaks and comments. -/
def skipToCode : Nat → List Char → List Char
  | 0, cs => cs
  | fuel + 1, cs =>
    let cs := cs.dropWhile isSpace
    match commentLength cs with
    | 0 => cs
    | n + 1 => skipToCode fuel (cs.drop (n + 1))

/-- Whether the lexeme after a line break lets the line before it stand as a whole statement.
`operators` says that the line before could go on with a binary operator. -/
def opensLine (operators : Bool) : List Char → Bool
  | c :: rest =>
    if ['\x60', ',', '.', ';', '*', '%', '>', '<', '=', '?', '^', '|', '&', '/', ':'].contains c
    then false
    else if c = '(' || c = '[' then !operators
    else if c = '+' || c = '-' then rest.head? = some c
    else if c = '!' then rest.head? ≠ some '='
    else if c = 'i' then
      match rest with
      | 'n' :: d :: _ =>
        if !d.isAlpha then false
        else if "nstanceof".toList.isPrefixOf rest then
          ((rest.drop 9).head?.map Char.isAlpha).getD false
        else true
      | ['n'] => false
      | _ => true
    else true
  | [] => true

/-- Whether a semicolon may be left out here: before a closing brace, at the end, or where a line
break is followed by something that does not carry the line on. -/
def breaksHere (operators : Bool) (fuel : Nat) (cs : List Char) : Bool :=
  match cs.dropWhile fun c => isSpace c && c ≠ '\n' with
  | [] => true
  | '\x7d' :: _ => true
  | '\n' :: rest => opensLine operators (skipToCode fuel rest)
  | _ => false

namespace Parser

def trivia : Parser Unit := modify State.pastTrivia

/-- The characters ahead, after blanks and comments, which stay unread. -/
def look : Parser (List Char) := do return (← get).pastTrivia.rest

def breaks (operators : Bool) : Parser Bool := do
  let s ← get
  return breaksHere operators s.limit s.rest

/-- Refuses to go on where a line break ends what is being read. -/
def sameLine (mode : Mode) (operators : Bool) : Parser Unit := do
  if mode.lineEnd && (← breaks operators) then failure

/-- Reads the given characters. -/
def mark (m : String) : Parser Unit := do
  let s := (← get).pastTrivia
  let cs := m.toList
  if cs.isPrefixOf s.rest then set (s.advance cs.length) else failure

/-- The word ahead, empty if there is none. -/
def lookWord : Parser String := do
  let cs ← look
  return String.ofList (cs.take (nameLength cs))

/-- Reads the given word. -/
def word (w : String) : Parser Unit := do
  let s := (← get).pastTrivia
  let n := nameLength s.rest
  if n = w.length ∧ s.rest.take n = w.toList then set (s.advance n) else failure

/-- Reads one of the given words. -/
def oneOf (ws : List String) : Parser Unit := do
  let s := (← get).pastTrivia
  let n := nameLength s.rest
  if ws.contains (String.ofList (s.rest.take n)) then set (s.advance n) else failure

/-- Reads a lexeme as a node. -/
def lexeme (kind : Kind) (length : List Char → Nat) : Parser Unit := do
  let s := (← get).pastTrivia
  match length s.rest with
  | 0 => failure
  | n + 1 => set (s.leaf kind (n + 1))

/-- Runs `p` if it succeeds here and says whether it did. -/
def tried (p : Parser Unit) : Parser Bool :=
  (p *> pure true) <|> pure false

/-- Runs `p` if it succeeds here. -/
def possibly (p : Parser Unit) : Parser Unit := p <|> pure ()

/-- Runs `p` for its success alone. -/
def succeeds (p : Parser Unit) : Parser Bool := do
  let s ← get
  let yes ← tried p
  set s
  return yes

/-- Runs `p` as often as it succeeds and moves on. -/
def many (p : Parser Unit) : Parser Unit := fun s => some ((), go p s.limit s)
where
  go (p : Parser Unit) : Nat → State → State
    | 0, s => s
    | fuel + 1, s => match p s with
      | some (_, t) => if s.offset < t.offset then go p fuel t else s
      | none => s

/-- Items with a mark between each two. -/
def separated (m : String) (p : Parser Unit) : Parser Unit := do
  p
  many (mark m *> p)

/-- Items between commas, any of which may be missing, up to a closing mark. -/
def listUntil (close : String) (p : Parser Unit) : Parser Unit := do
  many (mark "," <|> p)
  mark close

/-- Reads a node whose children are what `p` reads. -/
def node {α : Type} (kind : Kind) (p : Parser α) : Parser α := do
  let s := (← get).pastTrivia
  set { s with built := [] }
  let a ← p
  modify fun t =>
    { t with built := .node kind .plain ⟨s.offset, t.offset⟩ t.built.reverse :: s.built }
  return a

/-- Gives the node just read its part in the open node. -/
def labelled (role : Role) : Parser Unit := modify fun s =>
  match s.built with
  | t :: ts => { s with built := t.withRole role :: ts }
  | [] => s

/-- Reads a child that plays `role`. -/
def as (role : Role) (p : Parser Unit) : Parser Unit := p *> labelled role

/-- A place where nodes may turn out to have begun, with what the open node held before it. -/
structure Place where
  offset : Nat
  outer : List Tree

def place : Parser Place := do
  let s := (← get).pastTrivia
  set { s with built := [] }
  return ⟨s.offset, s.built⟩

/-- Makes all that was read since `p` one node. -/
def Place.wrap (p : Place) (kind : Kind) : Parser Unit := modify fun t =>
  { t with built := [.node kind .plain ⟨p.offset, t.offset⟩ t.built.reverse] }

/-- Hands what was read since `p` to the open node. -/
def Place.finish (p : Place) : Parser Unit := modify fun t =>
  { t with built := t.built ++ p.outer }

/-- The end of a statement or member: one of the marks, or a place where it may be left out.
Comments on its last line come before the end. -/
def terminator (operators : Bool) (marks : List String) : Parser Unit := do
  go operators marks (← get).limit
where
  go (operators : Bool) (marks : List String) : Nat → Parser Unit
    | 0 => failure
    | fuel + 1 => do
      if ← breaks operators then return
      let s := (← get).pastBlanks
      match commentLength s.rest with
      | 0 => set s; marks.foldr (fun m p => mark m <|> p) failure
      | n + 1 => set (s.leaf .comment (n + 1)); go operators marks fuel

/-- Reads a lexeme as a node, blanks and comments not being passed over. -/
def immediate (kind : Kind) (length : List Char → Nat) : Parser Unit := do
  let s ← get
  match length s.rest with
  | 0 => failure
  | n + 1 => set (s.leaf kind (n + 1))

/-- Pieces of literal text between back quotes, with what `inner` reads between them. -/
def template (kind : Kind) (inner : Parser Unit) : Parser Unit :=
  node kind do
    mark "\x60"
    many <|
      immediate .templateText templateTextLength <|> immediate .escape escapeLength <|>
        node .substitution (do mark "$\x7b"; inner; mark "\x7d")
    mark "\x60"

/-- A name that may stand for a value. -/
def identifier : Parser Unit := do
  let w ← lookWord
  if reservedWords.contains w then failure
  lexeme (if w = "undefined" then .undefinedName else .identifier) nameLength

/-- Any name, reserved or not. -/
def anyName (kind : Kind) : Parser Unit := lexeme kind nameLength

def privateName : Parser Unit :=
  lexeme .privateName fun
    | '#' :: rest => match nameLength rest with
      | 0 => 0
      | n + 1 => n + 2
    | _ => 0

def stringLiteral : Parser Unit := lexeme .string stringLength

def number : Parser Unit := lexeme .number numberLength

/-- The name of a member, a property or an enumeration value. -/
def memberName (rec : Productions) : Parser Unit :=
  anyName .propertyName <|> privateName <|> stringLiteral <|> number <|>
    node .computedName (do mark "["; rec (.expression .bracketed); mark "]")

end Parser

end PropForge.TypeScript
