import PropForge.Number.Digits
import PropForge.Yaml.Cursor

/-!
The texts of a document: plain ones, quoted ones, and blocks of lines. Line breaks inside a text
are folded to spaces, except where a block keeps them.
-/

namespace PropForge.Yaml

section Folding

/-- Blank lines before the next word, in a text between quotes. -/
def quotedBreaks : Nat → List Char → Cursor → Except Fault (List Char × Cursor)
  | 0, done, c => .ok (done, c)
  | fuel + 1, done, c =>
    if c.atSeparator then .error .malformed
    else
      let c := c.past fun ch => ch = ' ' || ch = '\t'
      match c.lineBreak with
      | ([], c) => .ok (done, c)
      | (b, c) => quotedBreaks fuel (done ++ b) c

/-- What a line break and the blank lines after it stand for. -/
def folded (lineBreak blankLines : List Char) : List Char :=
  if lineBreak ≠ ['\n'] then lineBreak ++ blankLines
  else if blankLines.isEmpty then [' ']
  else blankLines

end Folding

section Quoted

/-- What a letter after a backslash stands for. -/
def escapeChar? : Char → Option Char
  | '0' => some '\x00'
  | 'a' => some '\x07'
  | 'b' => some '\x08'
  | 't' => some '\t'
  | '\t' => some '\t'
  | 'n' => some '\n'
  | 'v' => some '\x0b'
  | 'f' => some '\x0c'
  | 'r' => some '\r'
  | 'e' => some '\x1b'
  | ' ' => some ' '
  | '"' => some '"'
  | '\\' => some '\\'
  | '/' => some '/'
  | 'N' => some '\u0085'
  | '_' => some '\u00a0'
  | 'L' => some '\u2028'
  | 'P' => some '\u2029'
  | _ => none

/-- How many digits of a code point follow a letter. -/
def codeLength? : Char → Option Nat
  | 'x' => some 2
  | 'u' => some 4
  | 'U' => some 8
  | _ => none

/-- The character of a code point. A surrogate has none and is replaced. -/
def codeChar (n : Nat) : Except Fault Char :=
  if 0x110000 ≤ n then .error .noCharacter
  else if 0xd800 ≤ n && n < 0xe000 then .ok '\ufffd'
  else .ok (Char.ofNat n)

/-- An escape, from after its backslash. -/
def escape (c : Cursor) : Except Fault (List Char × Cursor) :=
  match c.rest with
  | [] => .error .malformed
  | ch :: _ =>
    match escapeChar? ch, codeLength? ch with
    | some e, _ => .ok ([e], c.next)
    | none, some n => do
      let ds := c.next.rest.take n
      if ds.length < n || !ds.all Number.isHexDigit then .error .malformed
      else
        let e ← codeChar (Number.ofDigits 16 ds)
        return ([e], c.next.forward n)
    | none, none =>
      if isBreak ch then quotedBreaks (c.rest.length + 1) [] c.lineBreak.2
      else .error .malformed

/-- A text between quotes, from after the first one; `done` is what was read of it. -/
def quotedFrom (quote : Char) : Nat → List Char → Cursor → Except Fault (List Char × Cursor)
  | 0, _, _ => .error .malformed
  | fuel + 1, done, c =>
    match c.rest with
    | [] => .error .malformed
    | ch :: rest =>
      if ch = quote then
        if quote = '\'' && rest.head? = some '\'' then
          quotedFrom quote fuel (done ++ [ch]) (c.forward 2)
        else .ok (done, c.next)
      else if quote = '"' && ch = '\\' then do
        let (e, c) ← escape c.next
        quotedFrom quote fuel (done ++ e) c
      else if ch = ' ' || ch = '\t' || isBreak ch then do
        let isSpace (ch : Char) : Bool := ch = ' ' || ch = '\t'
        let spaces := c.rest.takeWhile isSpace
        let after := c.past isSpace
        match after.lineBreak with
        | ([], c) => quotedFrom quote fuel (done ++ spaces) c
        | (b, c) =>
          let (blank, c) ← quotedBreaks (c.rest.length + 1) [] c
          quotedFrom quote fuel (done ++ folded b blank) c
      else quotedFrom quote fuel (done ++ [ch]) c.next

/-- The text between the quotes that start here. -/
def quotedScalar (quote : Char) (c : Cursor) : Except Fault (String × Cursor) := do
  let (cs, c) ← quotedFrom quote (c.rest.length + 1) [] c.next
  return (String.ofList cs, c)

end Quoted

section Plain

/-- Blank lines and indentation before the next word of a plain text. At a line that separates
documents the text ends. -/
def plainBreaks : Nat → List Char → Cursor → Option (List Char) × Cursor
  | 0, done, c => (some done, c)
  | fuel + 1, done, c =>
    let c := c.pastSpaces
    match c.lineBreak with
    | ([], c) => (some done, c)
    | (b, c) => if c.atSeparator then (none, c) else plainBreaks fuel (done ++ b) c

/-- What stands between two words of a plain text, nothing if the text ends here. The last part says
whether a line ended. -/
def plainSpaces (c : Cursor) : List Char × Cursor × Bool :=
  let spaces := c.rest.takeWhile (· = ' ')
  let after := c.pastSpaces
  match after.lineBreak with
  | ([], c) => (spaces, c, false)
  | (b, c) =>
    if c.atSeparator then ([], c, true)
    else match plainBreaks (c.rest.length + 1) [] c with
      | (none, c) => ([], c, true)
      | (some blank, c) => (folded b blank, c, true)

/-- Whether a plain text ends before this character. -/
def endsPlain (inFlow : Bool) (cs : List Char) : Bool :=
  match cs with
  | [] => true
  | ch :: rest =>
    let next := rest.head?
    endsWord (some ch) ||
      (ch = ':' && (endsWord next ||
        (inFlow && (next.map [',', '[', ']', '\x7b', '\x7d'].contains).getD false))) ||
      (inFlow && [',', '?', '[', ']', '\x7b', '\x7d'].contains ch)

/-- The length of a word of a plain text. -/
def plainLength (inFlow : Bool) : List Char → Nat
  | [] => 0
  | ch :: rest => if endsPlain inFlow (ch :: rest) then 0 else plainLength inFlow rest + 1

/-- A plain text: its characters, the place after it and the blanks around it, and whether a line
ended last. -/
structure PlainScalar where
  text : List Char
  cursor : Cursor
  lineEnded : Bool

/-- The words of a plain text. Outside brackets its lines are indented at least as far as
`indent`. -/
def plainFrom (inFlow : Bool) (indent : Int) : Nat → List Char → List Char → Bool → Cursor →
    PlainScalar
  | 0, done, _, ended, c => ⟨done, c, ended⟩
  | fuel + 1, done, spaces, ended, c =>
    let n := if c.peek = some '#' then 0 else plainLength inFlow c.rest
    if n = 0 then ⟨done, c, ended⟩
    else
      let done := done ++ spaces ++ c.rest.take n
      let (spaces, c, ended) := plainSpaces (c.forward n)
      if spaces.isEmpty || c.peek = some '#' || (!inFlow && (c.column : Int) < indent) then
        ⟨done, c, ended⟩
      else plainFrom inFlow indent fuel done spaces ended c

/-- The plain text that starts here. -/
def plainScalar (inFlow : Bool) (indent : Int) (c : Cursor) : PlainScalar :=
  plainFrom inFlow indent (c.rest.length + 1) [] [] false c

end Plain

section Block

/-- What becomes of the line breaks at the end of a block. -/
inductive Chomp where
  | clip | strip | keep
  deriving DecidableEq

def chomp? : Char → Option Chomp
  | '+' => some .keep
  | '-' => some .strip
  | _ => none

/-- A digit that says how far a block is indented. -/
def indentDigit? (ch : Char) : Option Nat :=
  if ch.isDigit then some (Number.digitValue ch) else none

/-- The signs after the sign of a block, in either order. -/
def blockSigns (c : Cursor) : Except Fault ((Chomp × Option Nat) × Cursor) := do
  let (chomp, increment, c) :=
    match c.peek.bind chomp? with
    | some k => match c.next.peek.bind indentDigit? with
      | some n => (k, some n, c.forward 2)
      | none => (k, none, c.next)
    | none => match c.peek.bind indentDigit? with
      | some n => match c.next.peek.bind chomp? with
        | some k => (k, some n, c.forward 2)
        | none => (.clip, some n, c.next)
      | none => (.clip, none, c)
  if increment = some 0 || !endsSpan c.peek then .error .malformed
  else return ((chomp, increment), c)

/-- The blank lines before a block and the deepest column reached on them. -/
def blockIndentation : Nat → List Char → Nat → Cursor → List Char × Nat × Cursor
  | 0, breaks, deepest, c => (breaks, deepest, c)
  | fuel + 1, breaks, deepest, c =>
    if c.peek = some ' ' then
      let c := c.next
      blockIndentation fuel breaks (max deepest c.column) c
    else match c.lineBreak with
      | ([], c) => (breaks, deepest, c)
      | (b, c) => blockIndentation fuel (breaks ++ b) deepest c

/-- Past spaces, no further than a column. -/
def indentTo (indent : Nat) (c : Cursor) : Cursor :=
  c.forward (min (c.count (· = ' ')) (indent - c.column))

/-- Blank lines inside a block. -/
def blockBreaks (indent : Nat) : Nat → List Char → Cursor → List Char × Cursor
  | 0, breaks, c => (breaks, c)
  | fuel + 1, breaks, c =>
    let c := indentTo indent c
    match c.lineBreak with
    | ([], c) => (breaks, c)
    | (b, c) => blockBreaks indent fuel (breaks ++ b) c

/-- Whether a line of a block starts here. -/
def atBlockLine (indent : Nat) (c : Cursor) : Bool := c.column = indent && c.peek.isSome

def startsBlank (c : Cursor) : Bool := c.peek = some ' ' || c.peek = some '\t'

/-- The lines of a block: their text, the last line break and the blank lines after it. `breaks` are
the blank lines before. -/
def blockLines (folds : Bool) (indent : Nat) : Nat → List Char → List Char → Cursor →
    (List Char × List Char × List Char) × Cursor
  | 0, done, breaks, c => ((done, [], breaks), c)
  | fuel + 1, done, breaks, c =>
    let blankStart := startsBlank c
    let line := c.rest.takeWhile (!isBreak ·)
    let done := done ++ breaks ++ line
    let (b, c) := (c.forward line.length).lineBreak
    let (breaks, c) := blockBreaks indent (c.rest.length + 1) [] c
    if atBlockLine indent c then
      let join :=
        if folds && b = ['\n'] && !blankStart && !startsBlank c then
          if breaks.isEmpty then [' '] else []
        else b
      blockLines folds indent fuel (done ++ join) breaks c
    else ((done, b, breaks), c)

/-- The block that starts here; `indent` is the column of what it belongs to. -/
def blockScalar (folds : Bool) (indent : Int) (c : Cursor) : Except Fault (String × Cursor) := do
  let ((chomp, increment), c) ← blockSigns c.next
  let c ← c.finishLine
  let least := (max (indent + 1) 1).toNat
  let fuel := c.rest.length + 1
  let (breaks, indent, c) := match increment with
    | some n =>
      let indent := least + n - 1
      let (breaks, c) := blockBreaks indent fuel [] c
      (breaks, indent, c)
    | none =>
      let (breaks, deepest, c) := blockIndentation fuel [] 0 c
      (breaks, max least deepest, c)
  let ((text, last, breaks), c) :=
    if atBlockLine indent c then blockLines folds indent fuel [] breaks c
    else (([], [], breaks), c)
  let ending := match chomp with
    | .strip => []
    | .clip => last
    | .keep => last ++ breaks
  return (String.ofList (text ++ ending), c)

end Block

end PropForge.Yaml
