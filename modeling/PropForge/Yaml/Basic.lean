import PropForge.Json.Basic
import PropForge.Number.Shortest
import PropForge.Schema.Basic
import PropForge.Text.SingleQuoted
import PropForge.Yaml.Duration

/-!
The values of settings documents, and their text. Unlike JSON they have dates, bytes and sets, and
a mapping may have keys of any kind.
-/

namespace PropForge

open Number (Binary64)

inductive Yaml where
  | null
  | bool (value : Bool)
  | integer (value : Int)
  | real (value : Binary64)
  | string (value : String)
  | date (year month day : Nat)
  | moment (time : Timestamp)
  | bytes (value : List UInt8)
  | list (items : List Yaml)
  | pair (first second : Yaml)
  | set (items : List Yaml)
  | mapping (entries : List (Yaml × Yaml))
  deriving Repr

namespace Yaml

def realText (x : Binary64) : String := String.ofList (x.text "inf" "nan")

def decimalText (n : Nat) : String := String.ofList (Number.digits n)

/-- A day in the order of its size. -/
def dateText (year month day : Nat) : String :=
  String.ofList (Number.padded 4 year ++ '-' :: Number.padded 2 month ++
    '-' :: Number.padded 2 day)

/-- A day and a time of day with a blank between them. -/
def momentText (t : Timestamp) : String :=
  let two := Number.padded 2
  let clock := two t.hour ++ ':' :: two t.minute ++ ':' :: two t.second
  let fraction := if t.microsecond = 0 then [] else '.' :: Number.padded 6 t.microsecond
  let zone := match t.offset with
    | none => []
    | some m =>
      (if m < 0 then '-' else '+') :: two (m.natAbs / 60) ++ ':' :: two (m.natAbs % 60)
  dateText t.year t.month t.day ++ String.ofList (' ' :: clock ++ fraction ++ zone)

/-- A distance from universal time. -/
def zoneShown (minutes : Int) : String :=
  if minutes = 0 then "datetime.timezone.utc"
  else s!"datetime.timezone({durationShown minutes})"

/-- The parts of a moment; seconds and their fraction are left out if they are zero. -/
def momentShown (t : Timestamp) : String :=
  let parts := [t.year, t.month, t.day, t.hour, t.minute] ++
    (if t.second = 0 && t.microsecond = 0 then [] else [t.second]) ++
    (if t.microsecond = 0 then [] else [t.microsecond])
  let zone := match t.offset with
    | none => ""
    | some m => ", tzinfo=" ++ zoneShown m
  "datetime.datetime(" ++ ", ".intercalate (parts.map decimalText) ++ zone ++ ")"

/-- A byte inside quotes. -/
def byteShown (quote : Char) (b : UInt8) : List Char :=
  let c := Char.ofNat b.toNat
  if c = quote || c = '\\' then ['\\', c]
  else if c = '\n' then ['\\', 'n']
  else if c = '\r' then ['\\', 'r']
  else if c = '\t' then ['\\', 't']
  else if ' ' ≤ c && c ≤ '~' then [c]
  else '\\' :: 'x' :: Number.hexDigits 2 b.toNat

def bytesShown (bs : List UInt8) : String :=
  let quote := if bs.contains 39 && !bs.contains 34 then '"' else '\''
  String.ofList ('b' :: quote :: (bs.flatMap (byteShown quote) ++ [quote]))

mutual

/-- A value as it looks inside another one. -/
def shown (v : Yaml) : String :=
  match v with
  | null => "None"
  | bool b => if b then "True" else "False"
  | integer n => String.ofList (Number.decimal n)
  | real x => realText x
  | string s => Text.shown s
  | date y m d =>
    s!"datetime.date({decimalText y}, {decimalText m}, {decimalText d})"
  | moment t => momentShown t
  | bytes bs => bytesShown bs
  | list items => "[" ++ shownItems items ++ "]"
  | pair a b => "(" ++ shown a ++ ", " ++ shown b ++ ")"
  | set [] => "set()"
  | set items => "\x7b" ++ shownItems items ++ "\x7d"
  | mapping entries => "\x7b" ++ shownEntries entries ++ "\x7d"

def shownItems (items : List Yaml) : String :=
  match items with
  | [] => ""
  | [item] => shown item
  | item :: rest => shown item ++ ", " ++ shownItems rest

def shownEntries (entries : List (Yaml × Yaml)) : String :=
  match entries with
  | [] => ""
  | [(key, value)] => shown key ++ ": " ++ shown value
  | (key, value) :: rest => shown key ++ ": " ++ shown value ++ ", " ++ shownEntries rest

end

/-- The text of a value. -/
def text : Yaml → String
  | string s => s
  | date y m d => dateText y m d
  | moment t => momentText t
  | v => v.shown

/-- Whether a value counts as true where a condition is wanted. -/
def truthy : Yaml → Bool
  | null => false
  | bool b => b
  | integer n => n ≠ 0
  | real (.finite _ u) => u ≠ 0
  | real _ => true
  | string s => s ≠ ""
  | date .. | moment _ | pair .. => true
  | bytes bs => !bs.isEmpty
  | list items => !items.isEmpty
  | set items => !items.isEmpty
  | mapping entries => !entries.isEmpty

/-- What a value is called in messages about its type. -/
def kindName : Yaml → String
  | null => "NoneType"
  | bool _ => "bool"
  | integer _ => "int"
  | real _ => "float"
  | string _ => "str"
  | date .. => "datetime.date"
  | moment _ => "datetime.datetime"
  | bytes _ => "bytes"
  | list _ => "list"
  | pair .. => "tuple"
  | set _ => "set"
  | mapping _ => "dict"

/-- A number that a key stands for: truth values count as one and zero. -/
def keyNumber? : Yaml → Option Binary64
  | real x => some x
  | _ => none

def keyInteger? : Yaml → Option Int
  | bool b => some (if b then 1 else 0)
  | integer n => some n
  | _ => none

/-- Whether two keys are the same. Numbers are compared by their worth, whatever their kind. -/
def sameKey (a b : Yaml) : Bool :=
  match keyInteger? a, keyInteger? b, keyNumber? a, keyNumber? b with
  | some m, some n, _, _ => m = n
  | some m, _, _, some y => y.equalsInt m
  | _, some n, some x, _ => x.equalsInt n
  | _, _, some x, some y => x.equals y || x = y
  | _, _, _, _ =>
    match a, b with
    | null, null => true
    | string s, string t => s = t
    | date y m d, date y' m' d' => y = y' && m = m' && d = d'
    | moment s, moment t => s = t
    | bytes s, bytes t => s = t
    | _, _ => false

/-- Gives a key a value, in the key's old place or else at the end. -/
def putKey (key value : Yaml) : List (Yaml × Yaml) → List (Yaml × Yaml)
  | [] => [(key, value)]
  | (k, v) :: rest =>
    if k.sameKey key then (k, value) :: rest else (k, v) :: putKey key value rest

/-- The value of a named entry. -/
def entry? (name : String) (entries : List (Yaml × Yaml)) : Option Yaml :=
  (entries.find? fun (k, _) => k.sameKey (string name)).map (·.2)

mutual

/-- A JSON value as a settings value. -/
def ofJson (j : Json) : Yaml :=
  match j with
  | .null => null
  | .bool b => bool b
  | .integer n => integer n
  | .real x => real x
  | .string s => string s
  | .array items => list (ofItems items)
  | .object fields => mapping (ofFields fields)

def ofItems (items : List Json) : List Yaml :=
  match items with
  | [] => []
  | item :: rest => ofJson item :: ofItems rest

def ofFields (fields : List (String × Json)) : List (Yaml × Yaml) :=
  match fields with
  | [] => []
  | (name, value) :: rest => (string name, ofJson value) :: ofFields rest

end

end Yaml

end PropForge
