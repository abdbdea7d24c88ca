import PropForge.Number.Digits

/-!
Characters and lexemes of TypeScript. Every reader here takes the characters ahead and answers how
many of them belong to the lexeme, with zero for "not here".
-/

namespace PropForge.TypeScript

open Number (isHexDigit)

/-- Blanks between lexemes. -/
def isSpace (c : Char) : Bool :=
  c = ' ' || ('\t' ≤ c && c ≤ '\r') || c = '\u0085' || c = '\u00a0' || c = '\u1680' ||
    ('\u2000' ≤ c && c ≤ '\u200b') || c = '\u2028' || c = '\u2029' || c = '\u202f' ||
    c = '\u205f' || c = '\u2060' || c = '\u3000' || c = '\ufeff'

/-- A character of a name other than its first: anything but controls, blanks and ASCII marks. -/
def isNameChar (c : Char) : Bool :=
  if c < '\u0080' then c.isAlphanum || c = '_' || c = '$' || c = '\u007f' else !isSpace c

def isNameStart (c : Char) : Bool := isNameChar c && !c.isDigit

/-- The characters of a name after its start. A name may spell a character by its number, as four
hexadecimal digits or in braces. -/
def nameTail (inBraces : Bool) : List Char → Nat
  | [] => 0
  | c :: rest =>
    if inBraces then
      if isHexDigit c then nameTail true rest + 1
      else if c = '\x7d' then nameTail false rest + 1 else 0
    else if isNameChar c then nameTail false rest + 1
    else match c, rest with
      | '\\', 'u' :: '\x7b' :: rest => nameTail true rest + 3
      | '\\', 'u' :: a :: b :: c :: d :: rest =>
        if [a, b, c, d].all isHexDigit then nameTail false rest + 6 else 0
      | _, _ => 0

/-- The length of the name ahead. -/
def nameLength : List Char → Nat
  | [] => 0
  | c :: rest => if isNameStart c || c = '\\' then nameTail false (c :: rest) else 0

/-- Up to the end of the line. -/
def lineLength (cs : List Char) : Nat :=
  (cs.takeWhile fun c => c ≠ '\n' && c ≠ '\r' && c ≠ '\u2028' && c ≠ '\u2029').length

/-- Up to and including the mark that ends a block comment. -/
def blockCommentTail : List Char → Option Nat
  | [] => none
  | '*' :: '/' :: _ => some 2
  | _ :: rest => (blockCommentTail rest).map (· + 1)

/-- The length of the comment ahead. -/
def commentLength : List Char → Nat
  | '/' :: '/' :: rest => lineLength rest + 2
  | '/' :: '*' :: rest => match blockCommentTail rest with
    | some n => n + 2
    | none => 0
  | _ => 0

/-- The length of a comment in the manner of markup, which runs to the end of its line. -/
def markupCommentLength : List Char → Nat
  | '<' :: '!' :: '-' :: '-' :: rest => lineLength rest + 4
  | '-' :: '-' :: '>' :: rest => lineLength rest + 3
  | _ => 0

/-- The rest of a string literal with its closing quote. A backslash takes the character after
it, a line break included; a bare line break ends no string. -/
def stringTail (quote : Char) : List Char → Option Nat
  | [] => none
  | '\\' :: '\r' :: '\n' :: rest => (stringTail quote rest).map (· + 3)
  | '\\' :: _ :: rest => (stringTail quote rest).map (· + 2)
  | c :: rest =>
    if c = quote then some 1
    else if c = '\n' || c = '\r' then none
    else (stringTail quote rest).map (· + 1)

/-- The length of the string literal ahead. -/
def stringLength : List Char → Nat
  | c :: rest =>
    if c = '"' || c = '\'' then ((stringTail c rest).map (· + 1)).getD 0 else 0
  | [] => 0

/-- An attribute value in markup has no escapes and may span lines. -/
def attributeLength : List Char → Nat
  | c :: rest =>
    if c = '"' || c = '\'' then
      let body := rest.takeWhile (· ≠ c)
      if body.length < rest.length then body.length + 2 else 0
    else 0
  | [] => 0

def digitsLength (isDigit : Char → Bool) (cs : List Char) : Nat :=
  (cs.takeWhile fun c => isDigit c || c = '_').length

/-- The exponent of a decimal literal, if one is there. -/
def exponentLength : List Char → Nat
  | e :: rest =>
    if e = 'e' || e = 'E' then
      match rest with
      | s :: d :: rest =>
        if s = '+' || s = '-' then
          if d.isDigit then digitsLength Char.isDigit (d :: rest) + 2 else 0
        else if s.isDigit then digitsLength Char.isDigit (s :: d :: rest) + 1 else 0
      | [s] => if s.isDigit then 2 else 0
      | [] => 0
    else 0
  | [] => 0

def decimalLength (cs : List Char) : Nat :=
  let whole := digitsLength Char.isDigit cs
  match cs.drop whole with
  | 'n' :: _ => whole + 1
  | '.' :: rest =>
    let places := digitsLength Char.isDigit rest
    whole + 1 + places + exponentLength (rest.drop places)
  | rest => whole + exponentLength rest

/-- The length of the number ahead. -/
def numberLength : List Char → Nat
  | '0' :: x :: rest =>
    let radix (isDigit : Char → Bool) :=
      let n := digitsLength isDigit rest
      n + 2 + (if (rest.drop n).head? = some 'n' then 1 else 0)
    if x = 'x' || x = 'X' then radix isHexDigit
    else if x = 'o' || x = 'O' || x = 'b' || x = 'B' then radix Char.isDigit
    else decimalLength ('0' :: x :: rest)
  | '.' :: d :: rest => if d.isDigit then decimalLength ('.' :: d :: rest) else 0
  | c :: rest => if c.isDigit then decimalLength (c :: rest) else 0
  | [] => 0

/-- The rest of a regular expression with its closing slash; a slash inside a bracketed class is
an ordinary character. -/
def regexTail (inClass : Bool) : List Char → Option Nat
  | [] => none
  | '\n' :: _ => none
  | '\\' :: '\n' :: _ => none
  | '\\' :: _ :: rest => (regexTail inClass rest).map (· + 2)
  | '[' :: rest => (regexTail true rest).map (· + 1)
  | ']' :: rest => (regexTail false rest).map (· + 1)
  | '/' :: rest => if inClass then (regexTail true rest).map (· + 1) else some 1
  | _ :: rest => (regexTail inClass rest).map (· + 1)

/-- The length of the regular expression ahead, flags included. -/
def regexLength : List Char → Nat
  | '/' :: rest =>
    match regexTail false rest with
    | some n =>
      if n = 1 then 0 else n + 1 + ((rest.drop n).takeWhile Char.isAlpha).length
    | none => 0
  | _ => 0

/-- The literal text ahead inside a template: up to a back quote, a backslash or a
substitution. -/
def templateTextLength : List Char → Nat
  | [] => 0
  | '$' :: '\x7b' :: _ => 0
  | c :: rest => if c = '\x60' || c = '\\' then 0 else templateTextLength rest + 1

/-- The length of the escape ahead. -/
def escapeLength : List Char → Nat
  | '\\' :: 'x' :: a :: b :: _ => if isHexDigit a && isHexDigit b then 4 else 2
  | '\\' :: 'u' :: '\x7b' :: rest =>
    let n := (rest.takeWhile isHexDigit).length
    if (rest.drop n).head? = some '\x7d' then n + 4 else 2
  | '\\' :: 'u' :: a :: b :: c :: d :: _ => if [a, b, c, d].all isHexDigit then 6 else 2
  | '\\' :: '\r' :: '\n' :: _ => 3
  | '\\' :: c :: rest =>
    if '0' ≤ c && c ≤ '7' then
      ((c :: rest).take 3 |>.takeWhile fun d => '0' ≤ d && d ≤ '7').length + 1
    else 2
  | _ => 0

/-- Words that are never names in an expression. -/
def reservedWords : List String :=
  ["break", "case", "catch", "class", "const", "continue", "debugger", "default", "delete", "do",
    "else", "enum", "export", "extends", "false", "finally", "for", "function", "if", "import",
    "in", "instanceof", "new", "null", "return", "super", "switch", "this", "throw", "true", "try",
    "typeof", "var", "void", "while", "with"]

end PropForge.TypeScript
