import PropForge.Template.Basic
import PropForge.Template.Filter
import PropForge.Text.Blank
import PropForge.Text.WholeWord

/-!
Texts as templates. Expressions to print stand in double braces, tags in braces with percent
signs, comments in braces with number signs. The line break after a tag or comment belongs to it,
and so do the blanks before it on its line; a minus sign at either end takes all blanks there, a
plus sign takes none.
-/

namespace PropForge.Template

inductive Token where
  | word (w : String)
  | number (n : Nat)
  | string (s : String)
  | mark (m : String)
  deriving DecidableEq

/-- A template cut into its texts and tags, each tag with its line. -/
inductive Segment where
  | text (s : String)
  | print (line : Nat) (tokens : List Token)
  | tag (line : Nat) (tokens : List Token)

inductive Opening where
  | print | tag | comment
  deriving DecidableEq

def openingAt? : List Char → Option Opening
  | '\x7b' :: '\x7b' :: _ => some .print
  | '\x7b' :: '%' :: _ => some .tag
  | '\x7b' :: '#' :: _ => some .comment
  | _ => none

/-- The text before the first opening, the opening, and what follows it. -/
def splitAtOpening : List Char → List Char × Option (Opening × List Char)
  | [] => ([], none)
  | c :: rest =>
    match openingAt? (c :: rest) with
    | some o => ([], some (o, rest.drop 1))
    | none =>
      let (before, found) := splitAtOpening rest
      (c :: before, found)

/-- The text before a tag without the blanks on the tag's own line. -/
def withoutIndent (lineStarts : Bool) (before : List Char) : List Char :=
  let indent := (before.reverse.takeWhile (· ≠ '\n')).reverse
  let front := before.take (before.length - indent.length)
  if (lineStarts || !front.isEmpty) && indent.all Text.isBlank then front else before

/-- What follows the end of a tag, with the sign before that end. -/
def afterEnd (takesBreak : Bool) (sign : Option Char) (rest : List Char) : List Char :=
  if sign = some '-' then rest.dropWhile Text.isBlank
  else if takesBreak && sign ≠ some '+' && rest.head? = some '\n' then rest.drop 1
  else rest

/-- The mark that ends a tag, if it stands here: what follows it. -/
def endingAt? (o : Opening) (cs : List Char) : Option (List Char) :=
  let close := match o with
    | .print => ['\x7d', '\x7d']
    | .tag => ['%', '\x7d']
    | .comment => ['#', '\x7d']
  let takesBreak := o ≠ .print
  match cs with
  | '-' :: rest =>
    if close.isPrefixOf rest then some (afterEnd takesBreak (some '-') (rest.drop 2)) else none
  | '+' :: rest =>
    if takesBreak && close.isPrefixOf rest then some (afterEnd takesBreak (some '+') (rest.drop 2))
    else none
  | cs => if close.isPrefixOf cs then some (afterEnd takesBreak none (cs.drop 2)) else none

/-- What follows a comment. -/
def afterComment : List Char → Option (List Char)
  | [] => none
  | c :: rest =>
    match endingAt? .comment (c :: rest) with
    | some after => some after
    | none => afterComment rest

/-- The character that a letter after a backslash stands for. -/
def escaped? : Char → Option Char
  | 'n' => some '\n'
  | 't' => some '\t'
  | 'r' => some '\r'
  | 'a' => some '\x07'
  | 'b' => some '\x08'
  | 'f' => some '\x0c'
  | 'v' => some '\x0b'
  | '\\' => some '\\'
  | '\'' => some '\''
  | '"' => some '"'
  | _ => none

/-- How many digits after a letter give the number of a character. -/
def codeLength? : Char → Option Nat
  | 'x' => some 2
  | 'u' => some 4
  | 'U' => some 8
  | _ => none

/-- The character whose number follows a letter after a backslash. -/
def codeChar? (letter : Char) (rest : List Char) : Option Char := do
  let n ← codeLength? letter
  let ds := rest.take n
  if ds.length = n && ds.all Number.isHexDigit then some (Char.ofNat (Number.ofDigits 16 ds))
  else none

/-- The characters that escapes in a string literal stand for. -/
def unescape (cs : List Char) : List Char :=
  match cs with
  | [] => []
  | '\\' :: c :: rest =>
    match escaped? c, codeChar? c rest with
    | some e, _ => e :: unescape rest
    | none, some e => e :: unescape (rest.drop ((codeLength? c).getD 0))
    | none, none => '\\' :: c :: unescape rest
  | c :: rest => c :: unescape rest
termination_by cs.length
decreasing_by all_goals (simp only [List.length_cons, List.length_drop]; omega)

/-- The length of a string literal's body, and nothing if it has no end. -/
def bodyLength? (quote : Char) : List Char → Option Nat
  | [] => none
  | '\\' :: _ :: rest => (bodyLength? quote rest).map (· + 2)
  | c :: rest => if c = quote then some 0 else (bodyLength? quote rest).map (· + 1)

def marks : List String :=
  ["==", "!=", "|", ".", "(", ")", "[", "]", ",", "=", ":", "~", "+", "-", "*", "/", "<", ">"]

/-- The token ahead and what follows it. -/
def token? (cs : List Char) : Option (Token × List Char) :=
  match cs with
  | [] => none
  | c :: rest =>
    if c.isDigit then
      let ds := cs.takeWhile Char.isDigit
      some (.number (Number.ofDigits 10 ds), cs.drop ds.length)
    else if Text.isWordChar c then
      let w := cs.takeWhile Text.isWordChar
      some (.word (String.ofList w), cs.drop w.length)
    else if c = '"' || c = '\'' then do
      let n ← bodyLength? c rest
      some (.string (String.ofList (unescape (rest.take n))), rest.drop (n + 1))
    else do
      let m ← marks.find? fun (m : String) => m.toList.isPrefixOf cs
      some (.mark m, cs.drop m.length)

/-- The tokens of a tag up to its end; `done` is latest first. -/
def tagTokens (o : Opening) (line : Nat) : Nat → List Token → List Char →
    Except Error (List Token × List Char)
  | 0, _, _ => .error (.malformed line "unexpected end of template")
  | fuel + 1, done, cs =>
    let cs := cs.dropWhile Text.isBlank
    match endingAt? o cs with
    | some after => .ok (done.reverse, after)
    | none => match token? cs with
      | some (t, rest) => tagTokens o line fuel (t :: done) rest
      | none => match cs.head? with
        | some c => .error (.malformed line s!"unexpected char {Text.shown (String.ofList [c])}")
        | none => .error (.malformed line "unexpected end of template")

/-- The text between two places of which the second is further on. -/
def passed (start stop : List Char) : List Char := start.take (start.length - stop.length)

/-- The texts and tags of a template. `lineStarts` says that a line starts here. -/
def segments : Nat → Bool → Nat → List Char → Except Error (List Segment)
  | 0, _, _, _ => .ok []
  | fuel + 1, lineStarts, line, cs =>
    match splitAtOpening cs with
    | (before, none) =>
      .ok (if before.isEmpty then [] else [.text (String.ofList before)])
    | (before, some (o, inside)) => do
      let sign := inside.head?.filter fun c => c = '-' || c = '+'
      let text :=
        if sign = some '-' then Text.dropRightWhile Text.isBlank before
        else if sign ≠ some '+' && o ≠ .print then withoutIndent lineStarts before
        else before
      let line := line + before.count '\n'
      let inside := if sign.isSome then inside.drop 1 else inside
      let (found, after) ← match o with
        | .comment => match afterComment inside with
          | some after => pure ([], after)
          | none => .error (.malformed line "Missing end of comment tag")
        | .print => do
          let (ts, after) ← tagTokens o line (inside.length + 1) [] inside
          pure ([Segment.print line ts], after)
        | .tag => do
          let (ts, after) ← tagTokens o line (inside.length + 1) [] inside
          pure ([Segment.tag line ts], after)
      let tagText := passed inside after
      let rest ← segments fuel (tagText.getLast? = some '\n') (line + tagText.count '\n') after
      return (if text.isEmpty then [] else [.text (String.ofList text)]) ++ found ++ rest

/-- How tightly the parts of an expression hold together. -/
inductive Level where
  | choice | either | both | negation | comparison | operand

abbrev Reading := Except Error (Expr × List Token)

def unexpected (line : Nat) : List Token → Except Error α
  | [] => .error (.malformed line "unexpected end of expression")
  | .word w :: _ => .error (.malformed line s!"unexpected {Text.shown w}")
  | .mark m :: _ => .error (.malformed line s!"unexpected {Text.shown m}")
  | .string s :: _ => .error (.malformed line s!"unexpected {Text.shown s}")
  | .number n :: _ => .error (.malformed line s!"unexpected {n}")

mutual

/-- The expression ahead, as loose as a level allows. -/
def readExpr (line : Nat) : Nat → Level → List Token → Except Error (Expr × List Token)
  | 0, _, ts => unexpected line ts
  | fuel + 1, .choice, ts => do
    let (e, ts) ← readExpr line fuel .either ts
    match ts with
    | .word "if" :: ts =>
      let (test, ts) ← readExpr line fuel .either ts
      match ts with
      | .word "else" :: ts =>
        let (no, ts) ← readExpr line fuel .choice ts
        return (.choose test e (some no) line, ts)
      | ts => return (.choose test e none line, ts)
    | ts => return (e, ts)
  | fuel + 1, .either, ts => do
    let (e, ts) ← readExpr line fuel .both ts
    match ts with
    | .word "or" :: ts =>
      let (f, ts) ← readExpr line fuel .either ts
      return (.either e f, ts)
    | ts => return (e, ts)
  | fuel + 1, .both, ts => do
    let (e, ts) ← readExpr line fuel .negation ts
    match ts with
    | .word "and" :: ts =>
      let (f, ts) ← readExpr line fuel .both ts
      return (.both e f, ts)
    | ts => return (e, ts)
  | fuel + 1, .negation, .word "not" :: ts => do
    let (e, ts) ← readExpr line fuel .negation ts
    return (.negation e, ts)
  | fuel + 1, .negation, ts => readExpr line fuel .comparison ts
  | fuel + 1, .comparison, ts => do
    let (e, ts) ← readExpr line fuel .operand ts
    match ts with
    | .mark "==" :: ts =>
      let (f, ts) ← readExpr line fuel .operand ts
      return (.equal e f, ts)
    | .mark "!=" :: ts =>
      let (f, ts) ← readExpr line fuel .operand ts
      return (.negation (.equal e f), ts)
    | ts => return (e, ts)
  | fuel + 1, .operand, ts => do
    match ts with
    | .string s :: ts => readSuffixes line fuel (.text s) ts
    | .number n :: ts => readSuffixes line fuel (.number n) ts
    | .word w :: ts =>
      readSuffixes line fuel (match w with
        | "true" | "True" => .flag true
        | "false" | "False" => .flag false
        | "none" | "None" => .nothing
        | w => .name w) ts
    | .mark "(" :: ts =>
      let (e, ts) ← readExpr line fuel .choice ts
      match ts with
      | .mark ")" :: ts => readSuffixes line fuel e ts
      | ts => unexpected line ts
    | ts => unexpected line ts

/-- The fields, items and filters after a value. -/
def readSuffixes (line : Nat) : Nat → Expr → List Token → Except Error (Expr × List Token)
  | 0, _, ts => unexpected line ts
  | fuel + 1, e, ts => do
    match ts with
    | .mark "." :: .word w :: ts => readSuffixes line fuel (.field e w) ts
    | .mark "." :: .number n :: ts => readSuffixes line fuel (.item e (.number n)) ts
    | .mark "[" :: ts =>
      let (index, ts) ← readExpr line fuel .choice ts
      match ts with
      | .mark "]" :: ts => readSuffixes line fuel (.item e index) ts
      | ts => unexpected line ts
    | .mark "|" :: .word f :: .mark "(" :: ts =>
      let (arguments, named, ts) ← readArguments line fuel [] [] ts
      readSuffixes line fuel (.filter e f arguments named) ts
    | .mark "|" :: .word f :: ts => readSuffixes line fuel (.filter e f [] []) ts
    | ts => return (e, ts)

/-- The arguments of a filter up to its closing bracket, latest first. -/
def readArguments (line : Nat) : Nat → List Expr → List (String × Expr) → List Token →
    Except Error (List Expr × List (String × Expr) × List Token)
  | 0, _, _, ts => unexpected line ts
  | fuel + 1, arguments, named, ts => do
    match ts with
    | .mark ")" :: ts => return (arguments.reverse, named.reverse, ts)
    | .mark "," :: ts => readArguments line fuel arguments named ts
    | .word n :: .mark "=" :: ts =>
      let (e, ts) ← readExpr line fuel .choice ts
      readArguments line fuel arguments ((n, e) :: named) ts
    | ts =>
      let (e, ts) ← readExpr line fuel .choice ts
      readArguments line fuel (e :: arguments) named ts

end

/-- Steps that reading an expression of some tokens takes at most. -/
def exprFuel (ts : List Token) : Nat := 8 * ts.length + 8

/-- The expression that all of the tokens spell. -/
def wholeExpr (line : Nat) (level : Level) (ts : List Token) : Except Error Expr := do
  match ← readExpr line (exprFuel ts) level ts with
  | (e, []) => return e
  | (_, ts) => unexpected line ts

/-- Whether a tag belongs to the tag before it. -/
def isContinuation : List Token → Bool
  | [.word w] => ["else", "endif", "endfor"].contains w
  | .word "elif" :: _ => true
  | _ => false

/-- The pieces up to a tag that goes on or closes the one around them, and what follows. -/
def readPieces : Nat → List Segment → Except Error (List Piece × List Segment)
  | 0, ss => .ok ([], ss)
  | _ + 1, [] => .ok ([], [])
  | fuel + 1, .text s :: ss => do
    let (ps, ss) ← readPieces fuel ss
    return (.text s :: ps, ss)
  | fuel + 1, .print line ts :: ss => do
    let e ← wholeExpr line .choice ts
    let (ps, ss) ← readPieces fuel ss
    return (.output e :: ps, ss)
  | fuel + 1, .tag line ts :: ss => do
    if isContinuation ts then return ([], .tag line ts :: ss)
    let (piece, ss) ← readTag fuel line ts ss
    let (ps, ss) ← readPieces fuel ss
    return (piece :: ps, ss)
where
  /-- A tag with all that belongs to it. -/
  readTag : Nat → Nat → List Token → List Segment → Except Error (Piece × List Segment)
    | 0, line, ts, _ => unexpected line ts
    | fuel + 1, line, .word "if" :: ts, ss => do
      let test ← wholeExpr line .choice ts
      let (yes, ss) ← readPieces fuel ss
      match ss with
      | .tag line (.word "elif" :: ts) :: ss =>
        let (no, ss) ← readTag fuel line (.word "if" :: ts) ss
        return (.branch test yes [no], ss)
      | .tag line [.word "else"] :: ss =>
        let (no, ss) ← readPieces fuel ss
        match ss with
        | .tag _ [.word "endif"] :: ss => return (.branch test yes no, ss)
        | _ => .error (.malformed line "Unexpected end of template.")
      | .tag _ [.word "endif"] :: ss => return (.branch test yes [], ss)
      | _ => .error (.malformed line "Unexpected end of template.")
    | fuel + 1, line, .word "for" :: .word target :: .word "in" :: ts, ss => do
      let (items, ts) ← readExpr line (exprFuel ts) .either ts
      let test ← match ts with
        | .word "if" :: ts => pure (some (← wholeExpr line .choice ts))
        | [] => pure none
        | ts => unexpected line ts
      let (body, ss) ← readPieces fuel ss
      match ss with
      | .tag line [.word "else"] :: ss =>
        let (otherwise, ss) ← readPieces fuel ss
        match ss with
        | .tag _ [.word "endfor"] :: ss => return (.loop target items test body otherwise, ss)
        | _ => .error (.malformed line "Unexpected end of template.")
      | .tag _ [.word "endfor"] :: ss => return (.loop target items test body [], ss)
      | _ => .error (.malformed line "Unexpected end of template.")
    | _ + 1, _, [.word "include", .string name], ss => .ok (.insert name, ss)
    | _ + 1, line, .word w :: _, _ =>
      .error (.malformed line s!"Encountered unknown tag {Text.shown w}.")
    | _ + 1, line, ts, _ => unexpected line ts

mutual

/-- The first filter that does not exist, outside of what runs only on a condition. -/
def unknownFilter? (guarded : Bool) (e : Expr) : Option String :=
  match e with
  | .field owner _ => unknownFilter? guarded owner
  | .item owner index => (unknownFilter? guarded owner).or (unknownFilter? guarded index)
  | .filter value name arguments named =>
    if !guarded && !isFilter name then some name
    else ((unknownFilter? guarded value).or (unknownIn? guarded arguments)).or
      (unknownNamed? guarded named)
  | .choose .. => none
  | .either a b | .both a b | .equal a b =>
    (unknownFilter? guarded a).or (unknownFilter? guarded b)
  | .negation a => unknownFilter? guarded a
  | _ => none

def unknownIn? (guarded : Bool) (es : List Expr) : Option String :=
  match es with
  | [] => none
  | e :: rest => (unknownFilter? guarded e).or (unknownIn? guarded rest)

def unknownNamed? (guarded : Bool) (es : List (String × Expr)) : Option String :=
  match es with
  | [] => none
  | (_, e) :: rest => (unknownFilter? guarded e).or (unknownNamed? guarded rest)

end

mutual

/-- The first unknown filter of a piece. A branch is checked only when it runs, but a loop inside
it is checked at once. -/
def Piece.unknownFilter? (guarded : Bool) (p : Piece) : Option String :=
  match p with
  | .text _ | .insert _ => none
  | .output e => Template.unknownFilter? guarded e
  | .branch test yes no =>
    ((Template.unknownFilter? true test).or (piecesUnknownFilter? true yes)).or
      (piecesUnknownFilter? true no)
  | .loop _ items test body otherwise =>
    ((Template.unknownFilter? guarded items).or
      (match test with
        | some t => Template.unknownFilter? false t
        | none => none)).or
      ((piecesUnknownFilter? false body).or (piecesUnknownFilter? false otherwise))

def piecesUnknownFilter? (guarded : Bool) (ps : List Piece) : Option String :=
  match ps with
  | [] => none
  | p :: rest => (p.unknownFilter? guarded).or (piecesUnknownFilter? guarded rest)

end

/-- The template that a text spells. -/
def parse (text : String) : Except Error (List Piece) := do
  let cs := Text.unifyBreaks text.toList
  let ss ← segments (cs.length + 1) true 1 cs
  match ← readPieces (2 * ss.length + 2) ss with
  | (ps, []) =>
    match piecesUnknownFilter? false ps with
    | some f => .error (.noFilter f)
    | none => return ps
  | (_, .tag line (.word w :: _) :: _) =>
    .error (.malformed line s!"Encountered unknown tag {Text.shown w}.")
  | (_, _) => .error (.malformed 1 "Unexpected end of template.")

end PropForge.Template
