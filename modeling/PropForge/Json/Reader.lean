import PropForge.Json.Basic

/-!
JSON texts as values. A reader moves over the characters and counts them, so that a fault is
reported where it is found. Of fields with the same name the last one counts, at the place of the
first.
-/

namespace PropForge.Json

open Number (Binary64)

/-- Why a text is not JSON. -/
inductive Cause where
  | expectingValue | expectingName | expectingColon | expectingComma | extraData
  | unterminatedString | controlCharacter | badEscape | badUnicodeEscape | byteOrderMark
  deriving DecidableEq, Repr

def Cause.message : Cause → String
  | expectingValue => "Expecting value"
  | expectingName => "Expecting property name enclosed in double quotes"
  | expectingColon => "Expecting ':' delimiter"
  | expectingComma => "Expecting ',' delimiter"
  | extraData => "Extra data"
  | unterminatedString => "Unterminated string starting at"
  | controlCharacter => "Invalid control character at"
  | badEscape => "Invalid \\escape"
  | badUnicodeEscape => "Invalid \\uXXXX escape"
  | byteOrderMark => "Unexpected UTF-8 BOM (decode using utf-8-sig)"

/-- A cause with the number of characters before it. -/
structure Fault where
  cause : Cause
  offset : Nat
  deriving DecidableEq, Repr

/-- What a fault says, with its line and its column, both counted from one. -/
def Fault.message (f : Fault) (text : List Char) : String :=
  let before := text.take f.offset
  let line := before.count '\n' + 1
  let column := (before.reverse.takeWhile (· ≠ '\n')).length + 1
  s!"{f.cause.message}: line {line} column {column} (char {f.offset})"

/-- A place in a text. -/
structure Cursor where
  rest : List Char
  offset : Nat

/-- What was read, and the place after it. -/
abbrev Reading (α : Type) := Except Fault (α × Cursor)

def Cursor.advance (c : Cursor) (n : Nat) : Cursor := ⟨c.rest.drop n, c.offset + n⟩

def Cursor.fail {α : Type} (c : Cursor) (cause : Cause) : Except Fault α :=
  .error ⟨cause, c.offset⟩

def isSpace (c : Char) : Bool := c = ' ' || c = '\t' || c = '\n' || c = '\r'

def Cursor.pastSpaces (c : Cursor) : Cursor := c.advance (c.rest.takeWhile isSpace).length

/-- What a backslash and a letter stand for. -/
def simpleEscape? : Char → Option Char
  | '"' => some '"'
  | '\\' => some '\\'
  | '/' => some '/'
  | 'b' => some '\x08'
  | 'f' => some '\x0c'
  | 'n' => some '\n'
  | 'r' => some '\r'
  | 't' => some '\t'
  | _ => none

def hexValue? (cs : List Char) : Option Nat :=
  if cs.all Number.isHexDigit then some (Number.ofDigits 16 cs) else none

/-- The character of a 16-bit unit that stands alone. Half a pair has none and is replaced. -/
def unitChar (n : Nat) : Char :=
  if 0xd800 ≤ n && n < 0xe000 then '\ufffd' else Char.ofNat n

/-- The second half of a surrogate pair, if one is spelled here. -/
def lowHalf? (cs : List Char) : Option (Option Nat) :=
  match cs with
  | '\\' :: 'u' :: a :: b :: c :: d :: _ :: _ => some (hexValue? [a, b, c, d])
  | _ => none

/-- The characters of a string up to its closing quote. `start` is where the string opened and
`done` what was read of it, latest first. -/
def readString (start : Nat) (done : List Char) (offset : Nat) :
    List Char → Reading String
  | [] => .error ⟨.unterminatedString, start⟩
  | '"' :: rest => .ok (String.ofList done.reverse, ⟨rest, offset + 1⟩)
  | ['\\'] => .error ⟨.unterminatedString, start⟩
  | '\\' :: 'u' :: a :: b :: c :: d :: e :: rest =>
    match hexValue? [a, b, c, d] with
    | none => .error ⟨.badUnicodeEscape, offset + 1⟩
    | some n =>
      if 0xd800 ≤ n && n < 0xdc00 then
        match e, rest with
        | '\\', 'u' :: a :: b :: c :: d :: f :: rest' =>
          match hexValue? [a, b, c, d] with
          | none => .error ⟨.badUnicodeEscape, offset + 7⟩
          | some m =>
            if 0xdc00 ≤ m && m < 0xe000 then
              let c := Char.ofNat (0x10000 + (n - 0xd800) * 0x400 + (m - 0xdc00))
              readString start (c :: done) (offset + 12) (f :: rest')
            else readString start (unitChar n :: done) (offset + 6)
              ('\\' :: 'u' :: a :: b :: c :: d :: f :: rest')
        | e, rest => readString start (unitChar n :: done) (offset + 6) (e :: rest)
      else readString start (unitChar n :: done) (offset + 6) (e :: rest)
  | '\\' :: 'u' :: _ => .error ⟨.badUnicodeEscape, offset + 1⟩
  | '\\' :: c :: rest =>
    match simpleEscape? c with
    | some d => readString start (d :: done) (offset + 2) rest
    | none => .error ⟨.badEscape, offset⟩
  | c :: rest =>
    if c < ' ' then .error ⟨.controlCharacter, offset⟩
    else readString start (c :: done) (offset + 1) rest

/-- The digits of a whole part; a leading zero stands alone. -/
def wholeDigits : List Char → List Char
  | '0' :: _ => ['0']
  | ds => ds.takeWhile Char.isDigit

/-- The digits of a fraction, none where no point is. -/
def fractionDigits : List Char → List Char
  | '.' :: ds => ds.takeWhile Char.isDigit
  | _ => []

/-- Whether an exponent is negative, and the length of its letter with its sign. -/
def exponentSign : List Char → Bool × Nat
  | _ :: '-' :: _ => (true, 2)
  | _ :: '+' :: _ => (false, 2)
  | _ => (false, 1)

/-- The digits of an exponent, none where no such letter is. -/
def exponentDigits (cs : List Char) : List Char :=
  if cs.head? = some 'e' || cs.head? = some 'E' then
    (cs.drop (exponentSign cs).2).takeWhile Char.isDigit
  else []

/-- The parts of a number's text. A fraction without digits is none, nor is such an exponent. -/
structure NumberParts where
  negative : Bool
  whole : List Char
  fraction : List Char
  negativeExponent : Bool
  exponent : List Char
  length : Nat

/-- The parts of the number ahead, as far as there is one. -/
def numberParts (cs : List Char) : NumberParts :=
  let negative := cs.head? = some '-'
  let unsigned := if negative then cs.drop 1 else cs
  let whole := wholeDigits unsigned
  let afterWhole := unsigned.drop whole.length
  let fraction := fractionDigits afterWhole
  let point := if fraction.isEmpty then 0 else 1
  let afterFraction := afterWhole.drop (fraction.length + point)
  let sign := exponentSign afterFraction
  let exponent := exponentDigits afterFraction
  let exponentLength := if exponent.isEmpty then 0 else sign.2 + exponent.length
  { negative, whole, fraction, negativeExponent := sign.1, exponent
    length := (if negative then 1 else 0) + whole.length + point + fraction.length +
      exponentLength }

/-- What the parts denote: a whole number if they are no more than a whole part. -/
def NumberParts.value (p : NumberParts) : Json :=
  let mantissa := Number.ofDigits 10 (p.whole ++ p.fraction)
  if p.fraction.isEmpty && p.exponent.isEmpty then
    integer (if p.negative then -(mantissa : Int) else mantissa)
  else
    let e : Int := Number.ofDigits 10 p.exponent
    let power := (if p.negativeExponent then -e else e) - p.fraction.length
    real (.ofDecimal p.negative mantissa power)

/-- A number: a whole one without leading zeros, or one with a fraction or an exponent. -/
def readNumber (c : Cursor) : Reading Json :=
  let parts := numberParts c.rest
  if parts.whole.isEmpty then c.fail .expectingValue
  else .ok (parts.value, c.advance parts.length)

/-- The values that are words. -/
def wordValues : List (String × Json) :=
  [("null", null), ("true", bool true), ("false", bool false), ("NaN", real .nan),
    ("Infinity", real (.infinite false)), ("-Infinity", real (.infinite true))]

def readScalar (c : Cursor) : Reading Json :=
  match wordValues.find? fun (w, _) => w.toList.isPrefixOf c.rest with
  | some (w, v) => .ok (v, c.advance w.length)
  | none => readNumber c

mutual

/-- The value ahead. Every other step of the fuel reads a character. -/
def readValue : Nat → Cursor → Except Fault (Json × Cursor)
  | 0, c => c.fail .expectingValue
  | fuel + 1, c =>
    match c.rest with
    | '"' :: rest => do
      let (s, c) ← readString c.offset [] (c.offset + 1) rest
      return (string s, c)
    | '[' :: _ =>
      let c := (c.advance 1).pastSpaces
      if c.rest.head? = some ']' then .ok (array [], c.advance 1) else readItems fuel [] c
    | '\x7b' :: _ =>
      let c := (c.advance 1).pastSpaces
      if c.rest.head? = some '\x7d' then .ok (object [], c.advance 1) else readFields fuel [] c
    | _ => readScalar c

/-- The items of an array up to its closing bracket; `done` is latest first. -/
def readItems : Nat → List Json → Cursor → Except Fault (Json × Cursor)
  | 0, _, c => c.fail .expectingValue
  | fuel + 1, done, c => do
    let (v, c) ← readValue fuel c
    let c := c.pastSpaces
    match c.rest with
    | ']' :: _ => return (array (v :: done).reverse, c.advance 1)
    | ',' :: _ => readItems fuel (v :: done) (c.advance 1).pastSpaces
    | _ => c.fail .expectingComma

/-- The fields of an object up to its closing brace. -/
def readFields : Nat → List (String × Json) → Cursor → Except Fault (Json × Cursor)
  | 0, _, c => c.fail .expectingValue
  | fuel + 1, done, c =>
    match c.rest with
    | '"' :: rest => do
      let (name, c) ← readString c.offset [] (c.offset + 1) rest
      let c := c.pastSpaces
      if c.rest.head? ≠ some ':' then c.fail .expectingColon
      let (v, c) ← readValue fuel (c.advance 1).pastSpaces
      let c := c.pastSpaces
      match c.rest with
      | '\x7d' :: _ => return (object (Assoc.put name v done), c.advance 1)
      | ',' :: _ => readFields fuel (Assoc.put name v done) (c.advance 1).pastSpaces
      | _ => c.fail .expectingComma
    | _ => c.fail .expectingName

end

/-- The value that a text denotes. -/
def parse (text : List Char) : Except Fault Json :=
  if text.head? = some '\ufeff' then .error ⟨.byteOrderMark, 0⟩
  else do
    let (v, c) ← readValue (2 * text.length + 2) (Cursor.mk text 0).pastSpaces
    let c := c.pastSpaces
    if c.rest.isEmpty then return v else c.fail .extraData

end PropForge.Json
