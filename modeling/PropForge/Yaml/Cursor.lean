import PropForge.Yaml.Fault

/-!
A place in a document, with its line and its column, and the classes of characters by which the
form of a document is read. The end of the document counts as the end of a line.
-/

namespace PropForge.Yaml

def isBreak (c : Char) : Bool :=
  c = '\n' || c = '\r' || c = '\u0085' || c = '\u2028' || c = '\u2029'

/-- The end of a line. -/
def endsLine : Option Char → Bool
  | none => true
  | some c => isBreak c

/-- A space or the end of a line. -/
def endsSpan : Option Char → Bool
  | none => true
  | some c => c = ' ' || isBreak c

/-- A space, a tab or the end of a line. -/
def endsWord : Option Char → Bool
  | none => true
  | some c => c = ' ' || c = '\t' || isBreak c

/-- Characters of the names of anchors, tag handles and directives. -/
def isNameChar (c : Char) : Bool := c.isAlphanum || c = '-' || c = '_'

/-- Characters that a document may hold. -/
def isAllowed (c : Char) : Bool :=
  c = '\t' || c = '\n' || c = '\r' || (' ' ≤ c && c ≤ '~') || c = '\u0085' ||
    ('\u00a0' ≤ c && c ≤ '\ufffd') || 0x10000 ≤ c.toNat

/-- A place in a document and what follows it. -/
structure Cursor where
  rest : List Char
  index : Nat
  line : Nat
  column : Nat

namespace Cursor

def start (text : List Char) : Cursor := ⟨text, 0, 0, 0⟩

def peek (c : Cursor) : Option Char := c.rest.head?

/-- The character some places on. -/
def ahead (c : Cursor) (n : Nat) : Option Char := c.rest[n]?

/-- Past one character. A byte order mark has no width. -/
def next (c : Cursor) : Cursor :=
  match c.rest with
  | [] => c
  | ch :: rest =>
    if isBreak ch then ⟨rest, c.index + 1, c.line + 1, 0⟩
    else ⟨rest, c.index + 1, c.line, if ch = '\ufeff' then c.column else c.column + 1⟩

/-- Past some characters. -/
def forward (c : Cursor) : Nat → Cursor
  | 0 => c
  | n + 1 => c.next.forward n

/-- How many characters of a class follow. -/
def count (c : Cursor) (p : Char → Bool) : Nat := (c.rest.takeWhile p).length

/-- Past all characters of a class. -/
def past (c : Cursor) (p : Char → Bool) : Cursor := c.forward (c.count p)

def pastSpaces (c : Cursor) : Cursor := c.past (· = ' ')

/-- Past a line break if there is one, with the character it stands for. -/
def lineBreak (c : Cursor) : List Char × Cursor :=
  match c.rest with
  | '\r' :: '\n' :: _ => (['\n'], c.forward 2)
  | ch :: _ =>
    if ch = '\u2028' || ch = '\u2029' then ([ch], c.next)
    else if isBreak ch then (['\n'], c.next)
    else ([], c)
  | [] => ([], c)

/-- Whether a line starts here that separates documents. -/
def atSeparator (c : Cursor) : Bool :=
  ("---".toList.isPrefixOf c.rest || "...".toList.isPrefixOf c.rest) && endsWord (c.ahead 3)

/-- Past the rest of a line on which only a comment may stand. -/
def finishLine (c : Cursor) : Except Fault Cursor :=
  let c := c.pastSpaces
  let c := if c.peek = some '#' then c.past (!isBreak ·) else c
  if endsLine c.peek then .ok c.lineBreak.2 else .error .malformed

end Cursor

end PropForge.Yaml
