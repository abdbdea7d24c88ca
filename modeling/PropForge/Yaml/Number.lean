import PropForge.Number.Binary64
import PropForge.Text.Blank
import PropForge.Text.Case
import PropForge.Text.Search
import PropForge.Yaml.Fault

/-!
The numbers that texts denote: whole ones in five bases, and others with a point or an exponent.
-/

namespace PropForge.Yaml

open Number (Binary64)

/-- A text without underscores. -/
def withoutBars (s : String) : List Char := s.toList.filter (· ≠ '_')

/-- A sign, and what follows it. -/
def takeSign : List Char → Bool × List Char
  | '-' :: cs => (true, cs)
  | '+' :: cs => (false, cs)
  | cs => (false, cs)

def signed (negative : Bool) (n : Nat) : Int := if negative then -(n : Int) else n

/-- The letter that may mark the base of digits. -/
def baseMark? : Nat → Option Char
  | 2 => some 'b'
  | 8 => some 'o'
  | 16 => some 'x'
  | _ => none

/-- Digits without the mark of their base. -/
def unmarked (base : Nat) (cs : List Char) : List Char :=
  match cs with
  | '0' :: c :: rest => if some c.toLower = baseMark? base then rest else cs
  | cs => cs

/-- A whole number in a base, perhaps with a sign and with blanks around it. -/
def wholeOf (base : Nat) (cs : List Char) : Except Fault Int :=
  let (negative, body) := takeSign (Text.strip cs)
  let ds := unmarked base body
  if !ds.isEmpty && ds.all fun c => Number.digitValue c < base then
    .ok (signed negative (Number.ofDigits base ds))
  else .error (.notInteger base (String.ofList cs))

/-- A whole number from its parts in base sixty. -/
def sixtyfold (parts : List Int) : Int := parts.foldl (fun n part => n * 60 + part) 0

/-- The whole number that a text denotes. Its beginning tells the base. -/
def integerOf (s : String) : Except Fault Int := do
  let cs := withoutBars s
  let (negative, body) := takeSign cs
  let n ← match body with
    | [] => .error .emptyNumber
    | ['0'] => pure 0
    | '0' :: 'b' :: ds => wholeOf 2 ds
    | '0' :: 'x' :: ds => wholeOf 16 ds
    | '0' :: _ => wholeOf 8 body
    | body =>
      if body.contains ':' then do
        pure (sixtyfold (← (Text.splitOn (· = ':') body).mapM (wholeOf 10)))
      else wholeOf 10 body
  return if negative then -n else n

/-- A decimal with a point or an exponent or both; nothing if it is none. -/
def decimal? (cs : List Char) : Option Binary64 :=
  let (negative, body) := takeSign cs
  match String.ofList (body.map Char.toLower) with
  | "inf" | "infinity" => some (.infinite negative)
  | "nan" => some .nan
  | _ =>
    let whole := body.takeWhile Char.isDigit
    let rest := body.drop whole.length
    let (fraction, rest) := match rest with
      | '.' :: rest => (rest.takeWhile Char.isDigit, rest.dropWhile Char.isDigit)
      | rest => ([], rest)
    let exponent? : Option Int := match rest with
      | [] => some 0
      | e :: rest =>
        let (negative, ds) := takeSign rest
        if (e = 'e' || e = 'E') && !ds.isEmpty && ds.all Char.isDigit then
          some (signed negative (Number.ofDigits 10 ds))
        else none
    if whole.isEmpty && fraction.isEmpty then none
    else exponent?.map fun e =>
      .ofDecimal negative (Number.ofDigits 10 (whole ++ fraction)) (e - fraction.length)

def decimalOf (cs : List Char) : Except Fault Binary64 :=
  match decimal? (Text.strip cs) with
  | some x => .ok x
  | none => .error (.notReal (String.ofList cs))

/-- A number from its parts in base sixty, the last one first. -/
def sixtyfoldReal (parts : List Binary64) : Binary64 :=
  (parts.reverse.foldl (fun (x, worth) part => (x.plusTimes worth part, worth * 60))
    (Binary64.finite false 0, 1)).1

/-- The number that a text denotes. -/
def realOf (s : String) : Except Fault Binary64 := do
  let cs := (Text.lower (String.ofList (withoutBars s))).toList
  let (negative, body) := takeSign cs
  let x ←
    if cs.isEmpty then .error .emptyNumber
    else if body = ".inf".toList then pure (.infinite false)
    else if body = ".nan".toList then pure .nan
    else if body.contains ':' then do
      pure (sixtyfoldReal (← (Text.splitOn (· = ':') body).mapM decimalOf))
    else decimalOf body
  return if negative then x.negated else x

end PropForge.Yaml
