import PropForge.Calendar
import PropForge.Yaml.Basic
import PropForge.Yaml.Number
import PropForge.Yaml.Plain

/-!
What the nodes of a document denote. Entries that are merged in come before a mapping's own, so
that its own count; of entries with the same key the last one counts.
-/

namespace PropForge.Yaml

section Scalars

def truthOf (s : String) : Except Fault Bool :=
  let word := Text.lower s
  if ["yes", "true", "on"].contains word then .ok true
  else if ["no", "false", "off"].contains word then .ok false
  else .error (.notTruth word)

def checkDay (year month day : Nat) : Except Fault Unit :=
  if year = 0 then .error .yearOutOfRange
  else if month = 0 || 12 < month then .error .monthOutOfRange
  else if day = 0 || Calendar.daysIn year month < day then .error .dayOutOfRange
  else .ok ()

def checkClock (hour minute second : Nat) : Except Fault Unit :=
  if 23 < hour then .error .hourOutOfRange
  else if 59 < minute then .error .minuteOutOfRange
  else if 59 < second then .error .secondOutOfRange
  else .ok ()

def checkOffset (minutes : Int) : Except Fault Unit :=
  if minutes.natAbs < 1440 then .ok () else .error (.offsetOutOfRange minutes)

/-- The first six digits of a fraction of a second, filled up on the right. -/
def microseconds (fraction : List Char) : Nat :=
  let ds := fraction.take 6
  Number.ofDigits 10 (ds ++ List.replicate (6 - ds.length) '0')

def momentOf (s : String) : Except Fault Yaml := do
  match Plain.momentText? s.toList with
  | none => .error .notMoment
  | some m =>
    let number := Number.ofDigits 10
    let (year, month, day) := (number m.year, number m.month, number m.day)
    match m.time with
    | none =>
      checkDay year month day
      return .date year month day
    | some (hour, minute, second) =>
      let (hour, minute, second) := (number hour, number minute, number second)
      let offset := m.zone.map fun (negative, hours, minutes) =>
        signed negative (number hours * 60 + number minutes)
      offset.forM checkOffset
      checkDay year month day
      checkClock hour minute second
      return .moment ⟨year, month, day, hour, minute, second, microseconds m.fraction, offset⟩

/-- The worth of a character in text of six bits a character. -/
def sixBits? (c : Char) : Option Nat :=
  if 'A' ≤ c && c ≤ 'Z' then some (c.toNat - 65)
  else if 'a' ≤ c && c ≤ 'z' then some (c.toNat - 71)
  else if c.isDigit then some (c.toNat + 4)
  else if c = '+' then some 62
  else if c = '/' then some 63
  else none

/-- The bytes of text of six bits a character, four characters making three bytes. `bits` holds the
worth of the characters since the last whole group, `pads` counts the marks since then. -/
def sixBitBytes (bits : List Nat) (pads : Nat) : List Char → Except Fault (List UInt8)
  | [] => if bits.isEmpty then .ok [] else .error .malformed
  | c :: rest =>
    if c = '=' then
      if 2 ≤ bits.length && 4 ≤ bits.length + pads + 1 then .ok []
      else sixBitBytes bits (if 2 ≤ bits.length then pads + 1 else pads) rest
    else match sixBits? c with
      | none => sixBitBytes bits pads rest
      | some n =>
        match bits with
        | [] => sixBitBytes [n] 0 rest
        | [a] => do return (a * 4 + n / 16).toUInt8 :: (← sixBitBytes [a, n] 0 rest)
        | [a, b] => do return (b % 16 * 16 + n / 4).toUInt8 :: (← sixBitBytes [a, b, n] 0 rest)
        | _ => do
          let last := bits.getLast?.getD 0
          return (last % 4 * 64 + n).toUInt8 :: (← sixBitBytes [] 0 rest)

def bytesOf (s : String) : Except Fault Yaml := do
  if !s.toList.all (· < '\u0080') then .error .malformed
  return .bytes (← sixBitBytes [] 0 s.toList)

/-- What a text denotes as a value of a kind. -/
def scalarOf (k : Kind) (s : String) : Except Fault Yaml := do
  match k with
  | .null => return .null
  | .truth => return .bool (← truthOf s)
  | .integer => return .integer (← integerOf s)
  | .real => return .real (← realOf s)
  | .moment => momentOf s
  | .text => return .string s
  | .merge | .default => .error .malformed

end Scalars

section Tags

/-- The beginning of the names of standard tags. -/
def standardTag (name : String) : String := "tag:yaml.org,2002:" ++ name

/-- The kinds of texts by the names of their tags. -/
def taggedKinds : List (String × Kind) :=
  [(standardTag "null", .null), (standardTag "bool", .truth), (standardTag "int", .integer),
    (standardTag "float", .real), (standardTag "timestamp", .moment),
    (standardTag "str", .text), (standardTag "merge", .merge), (standardTag "value", .default)]

/-- The kind of a node that is a text, none if its tag names no kind of texts. -/
def Node.kind? : Node → Option Kind
  | .scalar .untold isPlain s => some (if isPlain then Plain.kind s else .text)
  | .scalar .plain _ s => some (Plain.kind s)
  | .scalar (.named name) _ _ => Assoc.get? name taggedKinds
  | .list (.named name) _ | .mapping (.named name) _ => Assoc.get? name taggedKinds
  | _ => none

/-- Whether a tag is left to the node or is the standard one of a name. -/
def Tag.allows (t : Tag) (name : String) : Bool :=
  match t with
  | .named n => n = standardTag name
  | _ => true

end Tags

/-- Whether a value can be a key. -/
def isKey : Yaml → Bool
  | list _ | set _ | mapping _ => false
  | _ => true

/-- A mapping of entries; the last value of a key counts, at the key's first place. -/
def ofEntries (entries : List (Yaml × Yaml)) : List (Yaml × Yaml) :=
  entries.foldl (fun m (k, v) => putKey k v m) []

mutual

/-- What a node denotes. -/
def Node.value (n : Node) : Except Fault Yaml :=
  match n with
  | .scalar tag isPlain s =>
    if tag = .named (standardTag "binary") then bytesOf s
    else match Node.kind? (.scalar tag isPlain s) with
      | some k => scalarOf k s
      | none => .error .malformed
  | .list tag items =>
    if tag.allows "seq" then do return .list (← itemValues items)
    else if tag.allows "pairs" || tag.allows "omap" then do return .list (← pairValues items)
    else .error .malformed
  | .mapping tag entries =>
    if tag.allows "map" then do
      let (merged, own) ← entryValues entries
      return .mapping (ofEntries (merged ++ own))
    else if tag.allows "set" then do
      let (merged, own) ← entryValues entries
      return .set ((ofEntries (merged ++ own)).map (·.1))
    else .error .malformed

def itemValues (items : List Node) : Except Fault (List Yaml) :=
  match items with
  | [] => .ok []
  | n :: rest => do return (← n.value) :: (← itemValues rest)

/-- The entries that are merged into a mapping, and its own. -/
def entryValues (entries : List (Node × Node)) :
    Except Fault (List (Yaml × Yaml) × List (Yaml × Yaml)) :=
  match entries with
  | [] => .ok ([], [])
  | (key, value) :: rest =>
    match key.kind? with
    | some .merge => do
      let here ← mergedEntries value
      let (merged, own) ← entryValues rest
      return (here ++ merged, own)
    | kind => do
      let k ← if kind = some .default then pure (.string "=") else key.value
      if !isKey k then .error .malformed
      let v ← value.value
      let (merged, own) ← entryValues rest
      return (merged, (k, v) :: own)

/-- The entries of what is merged in: a mapping, or a list of mappings of which the first ones
count. -/
def mergedEntries (n : Node) : Except Fault (List (Yaml × Yaml)) :=
  match n with
  | .mapping _ entries => do
    let (merged, own) ← entryValues entries
    return merged ++ own
  | .list _ items => mergedItems items
  | .scalar .. => .error .malformed

def mergedItems (items : List Node) : Except Fault (List (Yaml × Yaml)) :=
  match items with
  | [] => .ok []
  | .mapping _ entries :: rest => do
    let (merged, own) ← entryValues entries
    return (← mergedItems rest) ++ (merged ++ own)
  | _ => .error .malformed

/-- Pairs, each written as a mapping of one entry. -/
def pairValues (items : List Node) : Except Fault (List Yaml) :=
  match items with
  | [] => .ok []
  | .mapping _ [(key, value)] :: rest => do
    let k ← key.value
    let v ← value.value
    return .pair k v :: (← pairValues rest)
  | _ => .error .malformed

end

/-- The value that a document denotes. A document without content denotes nothing. -/
def parse (text : String) : Except Fault Yaml := do
  match ← compose (← tokens text.toList) with
  | some n => n.value
  | none => return .null

end PropForge.Yaml
