import PropForge.Text.CaseTable

/-!
Upper and lower case by the full mappings of Unicode: a character may become several. A capital
sigma at the end of a word has a lower case of its own.
-/

namespace PropForge.Text

def CaseRun.contains (r : CaseRun) (n : Nat) : Bool :=
  r.first ≤ n && n ≤ r.last && (n - r.first) % r.stride = 0

/-- What a code point maps to. -/
def mapCase (runs : List CaseRun) (sequences : List (Nat × List Nat)) (c : Char) : List Char :=
  match sequences.find? fun (n, _) => n = c.toNat with
  | some (_, ns) => ns.map Char.ofNat
  | none => match runs.find? fun r => r.contains c.toNat with
    | some r => [Char.ofNat ((c.toNat : Int) + r.delta).toNat]
    | none => [c]

/-- The upper case of a character. ASCII is mapped without the tables. -/
def upperChar (c : Char) : List Char :=
  if c < '\u0080' then [c.toUpper] else mapCase upperRuns upperSequences c

/-- The lower case of a character that stands alone. -/
def lowerChar (c : Char) : List Char :=
  if c < '\u0080' then [c.toLower] else mapCase lowerRuns lowerSequences c

/-- Whether the nearest character that counts has a case. -/
def nextIsCased (cs : List Char) : Bool :=
  match cs.dropWhile fun c => inRanges c.toNat caseIgnorableRanges with
  | c :: _ => inRanges c.toNat casedRanges
  | [] => false

/-- The lower case of a text; `before` holds the characters read, latest first. -/
def lowerFrom (before : List Char) : List Char → List Char
  | [] => []
  | c :: rest =>
    let mapped :=
      if c = 'Σ' then [if nextIsCased before && !nextIsCased rest then 'ς' else 'σ']
      else lowerChar c
    mapped ++ lowerFrom (c :: before) rest

def lower (s : String) : String := String.ofList (lowerFrom [] s.toList)

/-- The text with its first character in upper case. -/
def upperFirst (s : String) : String :=
  match s.toList with
  | [] => s
  | c :: rest => String.ofList (upperChar c ++ rest)

/-- The text with its first character in lower case. -/
def lowerFirst (s : String) : String :=
  match s.toList with
  | [] => s
  | c :: rest => String.ofList (lowerChar c ++ rest)

end PropForge.Text
