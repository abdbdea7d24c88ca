import PropForge.Text.Utf8
import PropForge.Yaml.Scalar

/-!
Tokens of a document. Brackets and marks stand for themselves; where the form of the document is
told by indentation, tokens are put in for the brackets that are not written. Whether a word is a
key shows only at the colon after it, so the tokens before it are put in afterwards.
-/

namespace PropForge.Yaml

/-- What a tag is written as: a handle that stands for a beginning, and the rest. -/
structure TagName where
  handle : Option String
  suffix : String
  deriving DecidableEq, Repr

inductive Token where
  | version (major : Nat)
  | tagHandle (handle start : String)
  | reservedDirective
  | documentStart | documentEnd
  | blockListStart | blockMappingStart | blockEnd
  | listStart | listEnd | mappingStart | mappingEnd
  | blockEntry | entry | key | value
  | alias (name : String)
  | anchor (name : String)
  | tag (name : TagName)
  | scalar (text : String) (plain : Bool)
  deriving DecidableEq, Repr

section Names

/-- A name and what follows it. -/
def scanName (c : Cursor) : Except Fault (String × Cursor) :=
  let n := c.count isNameChar
  if n = 0 then .error .malformed
  else .ok (String.ofList (c.rest.take n), c.forward n)

def isUriChar (c : Char) : Bool :=
  isNameChar c || ";/?:@&=+$,.!~*'()[]%".toList.contains c

/-- The bytes of escapes in a row. -/
def uriBytes : List Char → Except Fault (List UInt8)
  | '%' :: a :: b :: rest => do
    if !(Number.isHexDigit a && Number.isHexDigit b) then .error .malformed
    return (Number.ofDigits 16 [a, b]).toUInt8 :: (← uriBytes rest)
  | '%' :: _ => .error .malformed
  | _ => .ok []

/-- The rest of a tag, its escapes replaced. -/
def uriText : Nat → List Char → Cursor → Except Fault (List Char × Cursor)
  | 0, done, c => .ok (done, c)
  | fuel + 1, done, c =>
    match c.peek with
    | some '%' => do
      let bytes ← uriBytes c.rest
      match Text.decode bytes with
      | .ok s => uriText fuel (done ++ s.toList) (c.forward (3 * bytes.length))
      | .error _ => .error .malformed
    | some ch => if isUriChar ch then uriText fuel (done ++ [ch]) c.next else .ok (done, c)
    | none => .ok (done, c)

def scanUri (c : Cursor) : Except Fault (String × Cursor) := do
  let (cs, after) ← uriText (c.rest.length + 1) [] c
  if after.index = c.index then .error .malformed
  return (String.ofList cs, after)

/-- The handle of a tag: one mark, or a name between two. -/
def scanHandle (c : Cursor) : Except Fault (String × Cursor) :=
  if c.peek ≠ some '!' then .error .malformed
  else if c.ahead 1 = some ' ' then .ok ("!", c.next)
  else
    let n := c.next.count isNameChar
    if c.ahead (n + 1) ≠ some '!' then .error .malformed
    else .ok (String.ofList (c.rest.take (n + 2)), c.forward (n + 2))

/-- Whether a mark that makes a handle follows within the word. -/
def hasHandle (c : Cursor) : Bool :=
  (c.next.rest.takeWhile fun ch => !endsSpan (some ch)).contains '!'

def scanTag (c : Cursor) : Except Fault (Token × Cursor) := do
  let (name, c) ← match c.ahead 1 with
    | some '<' => do
      let (suffix, c) ← scanUri (c.forward 2)
      if c.peek ≠ some '>' then .error .malformed
      pure (TagName.mk none suffix, c.next)
    | next =>
      if endsWord next then pure (TagName.mk none "!", c.next)
      else do
        let (handle, c) ← if hasHandle c then scanHandle c else pure ("!", c.next)
        let (suffix, c) ← scanUri c
        pure (TagName.mk (some handle) suffix, c)
  if endsSpan c.peek then return (.tag name, c) else .error .malformed

/-- The name of an anchor, from its mark on. -/
def scanAnchorName (c : Cursor) : Except Fault (String × Cursor) := do
  let (name, c) ← scanName c.next
  if endsWord c.peek || (c.peek.map "?:,]\x7d%@\x60".toList.contains).getD false then
    return (name, c)
  else .error .malformed

def scanNumber (c : Cursor) : Except Fault (Nat × Cursor) :=
  let n := c.count Char.isDigit
  if n = 0 then .error .malformed
  else .ok (Number.ofDigits 10 (c.rest.take n), c.forward n)

def scanVersion (c : Cursor) : Except Fault (Token × Cursor) := do
  let (major, c) ← scanNumber c.pastSpaces
  if c.peek ≠ some '.' then .error .malformed
  let (_, c) ← scanNumber c.next
  if endsSpan c.peek then return (.version major, c) else .error .malformed

def scanTagDirective (c : Cursor) : Except Fault (Token × Cursor) := do
  let (handle, c) ← scanHandle c.pastSpaces
  if c.peek ≠ some ' ' then .error .malformed
  let (start, c) ← scanUri c.pastSpaces
  if endsSpan c.peek then return (.tagHandle handle start, c) else .error .malformed

def scanDirective (c : Cursor) : Except Fault (Token × Cursor) := do
  let (name, c) ← scanName c.next
  if !endsSpan c.peek then .error .malformed
  let (token, c) ← match name with
    | "YAML" => scanVersion c
    | "TAG" => scanTagDirective c
    | _ => pure (.reservedDirective, c.past (!isBreak ·))
  return (token, ← c.finishLine)

end Names

/-- A place where a key may have begun. -/
structure PossibleKey where
  token : Nat
  /-- Nothing but a key can stand there. -/
  required : Bool
  index : Nat
  line : Nat
  column : Nat

/-- A reading of tokens: the place, the tokens before it, the brackets that are open, the columns of
the blocks that are open, and the keys that may have begun, by depth of brackets. -/
structure Scanner where
  cursor : Cursor
  tokens : Array Token
  depth : Nat
  indent : Int
  indents : List Int
  keyAllowed : Bool
  keys : List (Nat × PossibleKey)

namespace Scanner

def start (text : List Char) : Scanner := ⟨.start text, #[], 0, -1, [], true, []⟩

def add (s : Scanner) (t : Token) : Scanner := { s with tokens := s.tokens.push t }

def inFlow (s : Scanner) : Bool := 0 < s.depth

/-- Past blanks, comments and line breaks. Outside brackets a key may begin on a new line. -/
def toNextToken : Nat → Scanner → Scanner
  | 0, s => s
  | fuel + 1, s =>
    let c := s.cursor.pastSpaces
    let c := if c.peek = some '#' then c.past (!isBreak ·) else c
    match c.lineBreak with
    | ([], c) => { s with cursor := c }
    | (_, c) => toNextToken fuel { s with cursor := c, keyAllowed := s.keyAllowed || !s.inFlow }

/-- Whether a key that may have begun can still be one: it ends on its line and is not long. -/
def isFresh (s : Scanner) (k : PossibleKey) : Bool :=
  k.line = s.cursor.line && s.cursor.index - k.index ≤ 1024

/-- Forgets the places where no key can be any more. -/
def dropStale (s : Scanner) : Except Fault Scanner :=
  if s.keys.any fun (_, k) => !s.isFresh k && k.required then .error .malformed
  else .ok { s with keys := s.keys.filter fun (_, k) => s.isFresh k }

/-- Forgets the place in the innermost brackets. -/
def dropKey (s : Scanner) : Except Fault Scanner :=
  if s.keys.any fun (d, k) => d = s.depth && k.required then .error .malformed
  else .ok { s with keys := s.keys.filter fun (d, _) => d ≠ s.depth }

/-- Notes that a key may begin here. -/
def noteKey (s : Scanner) : Except Fault Scanner := do
  if !s.keyAllowed then return s
  let c := s.cursor
  let k : PossibleKey :=
    ⟨s.tokens.size, !s.inFlow && s.indent = (c.column : Int), c.index, c.line, c.column⟩
  let s ← s.dropKey
  return { s with keys := (s.depth, k) :: s.keys }

/-- Ends the blocks that are indented further than a column. -/
def unwind (column : Int) (s : Scanner) : Scanner :=
  if s.inFlow then s else go s.indents s
where
  go : List Int → Scanner → Scanner
    | [], s => s
    | i :: rest, s =>
      if column < s.indent then go rest { s.add .blockEnd with indent := i, indents := rest }
      else s

/-- Whether a column begins a new block, and the reading with that block open. -/
def openBlock (s : Scanner) (column : Nat) : Bool × Scanner :=
  if s.indent < (column : Int) then
    (true, { s with indent := column, indents := s.indent :: s.indents })
  else (false, s)

/-- Opens a block here if the column begins one. Its first entry must be allowed here. -/
def openHere (s : Scanner) (t : Token) : Except Fault Scanner :=
  if s.inFlow then .ok s
  else if !s.keyAllowed then .error .malformed
  else match s.openBlock s.cursor.column with
    | (true, s) => .ok (s.add t)
    | (false, s) => .ok s

/-- Adds a token of some characters and goes past them. -/
def mark (s : Scanner) (t : Token) (length : Nat) : Scanner :=
  { s.add t with cursor := s.cursor.forward length }

/-- Ends all blocks before something that belongs to no block. -/
def leaveBlocks (s : Scanner) : Except Fault Scanner := do
  return { ← (s.unwind (-1)).dropKey with keyAllowed := false }

/-- Puts a token before those from a place on. -/
def insert (s : Scanner) (place : Nat) (t : Token) : Scanner :=
  { s with tokens := s.tokens.insertIdxIfInBounds place t }

/-- A colon: what may have been a key is one. -/
def fetchValue (s : Scanner) : Except Fault Scanner := do
  let s ← match s.keys.find? fun (d, _) => d = s.depth with
    | some (_, k) =>
      let s := { s with keys := s.keys.filter fun (d, _) => d ≠ s.depth }
      let (opens, s) := if s.inFlow then (false, s) else s.openBlock k.column
      let s := s.insert k.token .key
      let s := if opens then s.insert k.token .blockMappingStart else s
      pure { s with keyAllowed := false }
    | none => do
      let s ← s.openHere .blockMappingStart
      dropKey { s with keyAllowed := !s.inFlow }
  return s.mark .value 1

/-- A token that may be or begin a key, read from here. -/
def fetchWord (s : Scanner) (scan : Cursor → Except Fault (Token × Cursor)) :
    Except Fault Scanner := do
  let s ← s.noteKey
  let (t, c) ← scan s.cursor
  return { s.add t with cursor := c, keyAllowed := false }

def openBracket (s : Scanner) (t : Token) : Except Fault Scanner := do
  let s ← s.noteKey
  return { s.mark t 1 with depth := s.depth + 1, keyAllowed := true }

def closeBracket (s : Scanner) (t : Token) : Except Fault Scanner := do
  let s ← s.dropKey
  if s.depth = 0 then .error .malformed
  return { s.mark t 1 with depth := s.depth - 1, keyAllowed := false }

def fetchPlain (s : Scanner) : Except Fault Scanner := do
  let s ← s.noteKey
  let p := plainScalar s.inFlow (s.indent + 1) s.cursor
  return { s.add (.scalar (String.ofList p.text) true) with
    cursor := p.cursor, keyAllowed := p.lineEnded }

def fetchBlock (s : Scanner) (folds : Bool) : Except Fault Scanner := do
  let s ← dropKey { s with keyAllowed := true }
  let (text, c) ← blockScalar folds s.indent s.cursor
  return { s.add (.scalar text false) with cursor := c }

/-- Whether a plain text can begin here. -/
def startsPlain (s : Scanner) (ch : Char) : Bool :=
  let marks := "-?:,[]\x7b\x7d#&*!|>'\"%@\x60".toList
  (!endsWord (some ch) && !marks.contains ch) ||
    (!endsWord (s.cursor.ahead 1) && (ch = '-' || (!s.inFlow && (ch = '?' || ch = ':'))))

/-- The token that begins with a character, by that character. -/
def fetchAt (s : Scanner) (ch : Char) : Except Fault Scanner := do
  let c := s.cursor
  let wordEnds := endsWord (c.ahead 1)
  if ch = '%' && c.column = 0 then
    let s ← s.leaveBlocks
    let (t, c) ← scanDirective s.cursor
    return { s.add t with cursor := c }
  else if c.column = 0 && c.atSeparator then
    let s ← s.leaveBlocks
    return s.mark (if ch = '-' then .documentStart else .documentEnd) 3
  else if ch = '[' then s.openBracket .listStart
  else if ch = '\x7b' then s.openBracket .mappingStart
  else if ch = ']' then s.closeBracket .listEnd
  else if ch = '\x7d' then s.closeBracket .mappingEnd
  else if ch = ',' then
    let s ← dropKey { s with keyAllowed := true }
    return s.mark .entry 1
  else if ch = '-' && wordEnds then
    let s ← s.openHere .blockListStart
    let s ← dropKey { s with keyAllowed := true }
    return s.mark .blockEntry 1
  else if ch = '?' && (s.inFlow || wordEnds) then
    let s ← s.openHere .blockMappingStart
    let s ← dropKey { s with keyAllowed := !s.inFlow }
    return s.mark .key 1
  else if ch = ':' && (s.inFlow || wordEnds) then s.fetchValue
  else if ch = '*' then s.fetchWord fun c => do
    let (name, c) ← scanAnchorName c
    return (.alias name, c)
  else if ch = '&' then s.fetchWord fun c => do
    let (name, c) ← scanAnchorName c
    return (.anchor name, c)
  else if ch = '!' then s.fetchWord scanTag
  else if ch = '|' && !s.inFlow then s.fetchBlock false
  else if ch = '>' && !s.inFlow then s.fetchBlock true
  else if ch = '\'' || ch = '"' then s.fetchWord fun c => do
    let (text, c) ← quotedScalar ch c
    return (.scalar text false, c)
  else if s.startsPlain ch then s.fetchPlain
  else .error .malformed

/-- The reading after one more token, and whether it is over. -/
def fetch (s : Scanner) : Except Fault (Scanner × Bool) := do
  let s ← (toNextToken (s.cursor.rest.length + 1) s).dropStale
  let s := s.unwind s.cursor.column
  match s.cursor.peek with
  | none => return (← s.leaveBlocks, true)
  | some ch => return (← s.fetchAt ch, false)

/-- Reads on to the end. Each token takes a character at least. -/
def run : Nat → Scanner → Except Fault Scanner
  | 0, _ => .error .malformed
  | fuel + 1, s => do
    let (s, atEnd) ← s.fetch
    if atEnd then return s else run fuel s

end Scanner

/-- The tokens of a document. A byte order mark before it is left out. -/
def tokens (text : List Char) : Except Fault (List Token) := do
  if !text.all isAllowed then .error .malformed
  let s := Scanner.start text
  let s := if text.head? = some '\ufeff' then { s with cursor := s.cursor.next } else s
  return (← s.run (text.length + 2)).tokens.toList

end PropForge.Yaml
