import PropForge.Number.Digits
import PropForge.Yaml.Node

/-!
Which kind of value a text without quotes is, told by its form. The forms of numbers allow
underscores between digits, and digits in base sixty between colons.
-/

namespace PropForge.Yaml

/-- The kinds of values that texts denote. -/
inductive Kind where
  | null | truth | integer | real | moment | text
  /-- The mark of entries that are merged in. -/
  | merge
  /-- The mark of the value that stands for a whole mapping. -/
  | default
  deriving DecidableEq, Repr

namespace Plain

def isDigitOrBar (c : Char) : Bool := c.isDigit || c = '_'

def truths : List String :=
  ["yes", "Yes", "YES", "no", "No", "NO", "true", "True", "TRUE", "false", "False", "FALSE",
    "on", "On", "ON", "off", "Off", "OFF"]

def nulls : List String := ["", "~", "null", "Null", "NULL"]

def unsigned : List Char → List Char
  | '+' :: cs => cs
  | '-' :: cs => cs
  | cs => cs

/-- A digit and then digits and underscores; the length, zero if there is no digit. -/
def digitsLength (cs : List Char) : Nat :=
  match cs with
  | c :: rest => if c.isDigit then 1 + (rest.takeWhile isDigitOrBar).length else 0
  | [] => 0

/-- Digits of base sixty, each part after a colon; what follows them. -/
def pastSixtieths : Nat → List Char → List Char
  | 0, cs => cs
  | fuel + 1, cs =>
    match cs with
    | ':' :: a :: b :: rest =>
      if '0' ≤ a && a ≤ '5' && b.isDigit then pastSixtieths fuel rest
      else if a.isDigit then pastSixtieths fuel (b :: rest)
      else cs
    | [':', a] => if a.isDigit then [] else cs
    | cs => cs

/-- One part or more after colons. -/
def sixtieths? (cs : List Char) : Option (List Char) :=
  let rest := pastSixtieths cs.length cs
  if rest.length < cs.length then some rest else none

/-- An exponent with its sign, or nothing. -/
def isExponent (cs : List Char) : Bool :=
  match cs with
  | [] => true
  | e :: sign :: ds =>
    (e = 'e' || e = 'E') && (sign = '+' || sign = '-') && !ds.isEmpty && ds.all Char.isDigit
  | _ => false

/-- A fraction after its point: digits and underscores, then perhaps an exponent. -/
def isFraction (cs : List Char) : Bool := isExponent (cs.dropWhile isDigitOrBar)

def isReal (cs : List Char) : Bool :=
  let us := unsigned cs
  let n := digitsLength us
  let afterDigits := us.drop n
  (0 < n && afterDigits.head? = some '.' && isFraction (afterDigits.drop 1)) ||
    (cs.head? = some '.' && 0 < digitsLength (cs.drop 1) && isFraction (cs.drop 1)) ||
    (0 < n && match sixtieths? afterDigits with
      | some ('.' :: rest) => rest.all isDigitOrBar
      | _ => false) ||
    [".inf", ".Inf", ".INF"].contains (String.ofList us) ||
    [".nan", ".NaN", ".NAN"].contains (String.ofList cs)

def isInteger (cs : List Char) : Bool :=
  match unsigned cs with
  | '0' :: 'b' :: ds => !ds.isEmpty && ds.all fun c => c = '0' || c = '1' || c = '_'
  | '0' :: 'x' :: ds => !ds.isEmpty && ds.all fun c => Number.isHexDigit c || c = '_'
  | '0' :: ds => ds.all fun c => ('0' ≤ c && c ≤ '7') || c = '_'
  | c :: ds =>
    c.isDigit &&
      (match ds.dropWhile isDigitOrBar with
        | [] => true
        | rest => sixtieths? rest = some [])
  | [] => false

/-- The parts of a day and a time. -/
structure MomentText where
  year : List Char
  month : List Char
  day : List Char
  /-- Hour, minute and second, if there is a time. -/
  time : Option (List Char × List Char × List Char)
  fraction : List Char
  /-- The distance from universal time: its sign, hours and minutes. -/
  zone : Option (Bool × List Char × List Char)

/-- At most `most` digits and what follows, if there are `least`. -/
def takeDigits? (least most : Nat) (cs : List Char) : Option (List Char × List Char) :=
  let ds := (cs.take most).takeWhile Char.isDigit
  if least ≤ ds.length then some (ds, cs.drop ds.length) else none

def pastChar? (c : Char) : List Char → Option (List Char)
  | d :: rest => if c = d then some rest else none
  | [] => none

/-- The distance from universal time at the end of a moment. -/
def zoneText? (cs : List Char) : Option (Option (Bool × List Char × List Char)) := do
  match cs.dropWhile fun c => c = ' ' || c = '\t' with
  | [] => if cs.isEmpty then some none else none
  | ['Z'] => some (some (false, ['0'], ['0']))
  | sign :: rest =>
    if sign ≠ '+' && sign ≠ '-' then none
    let (hours, rest) ← takeDigits? 1 2 rest
    match rest with
    | [] => some (some (sign = '-', hours, ['0']))
    | ':' :: rest =>
      let (minutes, rest) ← takeDigits? 2 2 rest
      if rest.isEmpty then some (some (sign = '-', hours, minutes)) else none
    | _ => none

/-- A day, and perhaps a time of day after it. -/
def momentText? (cs : List Char) : Option MomentText := do
  let (year, rest) ← takeDigits? 4 4 cs
  let (month, rest) ← takeDigits? 1 2 (← pastChar? '-' rest)
  let (day, rest) ← takeDigits? 1 2 (← pastChar? '-' rest)
  if rest.isEmpty then return ⟨year, month, day, none, [], none⟩
  let rest ← match rest with
    | 'T' :: rest => some rest
    | 't' :: rest => some rest
    | c :: _ =>
      if c = ' ' || c = '\t' then some (rest.dropWhile fun c => c = ' ' || c = '\t') else none
    | [] => none
  let (hour, rest) ← takeDigits? 1 2 rest
  let (minute, rest) ← takeDigits? 2 2 (← pastChar? ':' rest)
  let (second, rest) ← takeDigits? 2 2 (← pastChar? ':' rest)
  let (fraction, rest) := match rest with
    | '.' :: rest => (rest.takeWhile Char.isDigit, rest.dropWhile Char.isDigit)
    | rest => ([], rest)
  let zone ← zoneText? rest
  return ⟨year, month, day, some (hour, minute, second), fraction, zone⟩

/-- A text that is taken for a moment unless it is said to be something else: a day without a time
has two digits for its month and its day. -/
def isMoment (cs : List Char) : Bool :=
  match momentText? cs with
  | some m => m.time.isSome || (m.month.length = 2 && m.day.length = 2)
  | none => false

/-- The kind of a text without quotes; the first form that fits decides. -/
def kind (s : String) : Kind :=
  let cs := s.toList
  if truths.contains s then .truth
  else if isReal cs then .real
  else if isInteger cs then .integer
  else if s = "<<" then .merge
  else if nulls.contains s then .null
  else if isMoment cs then .moment
  else if s = "=" then .default
  else .text

end Plain

end PropForge.Yaml
