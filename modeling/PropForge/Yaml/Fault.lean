import PropForge.Text.SingleQuoted
import PropForge.Yaml.Duration

/-!
What can be wrong with a settings document: its form, or a value that its form asks for.
-/

namespace PropForge.Yaml

/-- Why a text denotes no value. -/
inductive Fault where
  /-- The text is no document, or its parts do not fit together. -/
  | malformed
  /-- An escape stands for no character. -/
  | noCharacter
  | notInteger (base : Nat) (text : String)
  | notReal (text : String)
  /-- A number without any characters. -/
  | emptyNumber
  | notTruth (word : String)
  | notMoment
  | yearOutOfRange
  | monthOutOfRange
  | dayOutOfRange
  | hourOutOfRange
  | minuteOutOfRange
  | secondOutOfRange
  /-- A distance from universal time, in minutes, that is a day or more. -/
  | offsetOutOfRange (minutes : Int)
  deriving DecidableEq, Repr

def Fault.message : Fault → String
  | malformed => "malformed document"
  | noCharacter => "chr() arg not in range(0x110000)"
  | notInteger base text =>
    let base := String.ofList (Number.digits base)
    s!"invalid literal for int() with base {base}: {Text.shown text}"
  | notReal text => s!"could not convert string to float: {Text.shown text}"
  | emptyNumber => "string index out of range"
  | notTruth word => Text.shown word
  | notMoment => "'NoneType' object has no attribute 'groupdict'"
  | yearOutOfRange => "year 0 is out of range"
  | monthOutOfRange => "month must be in 1..12"
  | dayOutOfRange => "day is out of range for month"
  | hourOutOfRange => "hour must be in 0..23"
  | minuteOutOfRange => "minute must be in 0..59"
  | secondOutOfRange => "second must be in 0..59"
  | offsetOutOfRange minutes =>
    "offset must be a timedelta strictly between -timedelta(hours=24) and " ++
      "timedelta(hours=24), not " ++ durationShown minutes

end PropForge.Yaml
