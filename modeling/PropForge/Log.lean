import PropForge.File.Path
import PropForge.Number.Digits
import PropForge.Schema.Basic

/-!
Logging: records of five severities, and handlers that show them on the console or add them to a
file. A record is shown if the log and the handler both let its severity through. Loggers hand their
records up to that of the program, which has the handlers, unless the dots of a name lead past it.
-/

namespace PropForge

inductive Severity where
  | debug | info | warning | error | critical
  deriving DecidableEq, Repr

namespace Severity

def rank : Severity → Nat
  | debug => 10
  | info => 20
  | warning => 30
  | error => 40
  | critical => 50

def name : Severity → String
  | debug => "DEBUG"
  | info => "INFO"
  | warning => "WARNING"
  | error => "ERROR"
  | critical => "CRITICAL"

/-- Whether a record of severity `s` passes where `lowest` is the least that does. -/
def passes (lowest s : Severity) : Bool := lowest.rank ≤ s.rank

end Severity

/-- Where records go. -/
inductive Handler where
  /-- Nowhere. -/
  | silent
  | console (lowest : Severity)
  | file (path : Path) (lowest : Severity)
  deriving DecidableEq, Repr

structure Log where
  lowest : Severity
  handlers : List Handler
  deriving DecidableEq, Repr

/-- The log before it is set up. -/
def Log.initial : Log := ⟨.info, [.silent]⟩

/-- A record, with the logger that it was given to. -/
structure LogRecord where
  severity : Severity
  logger : String
  message : String
  deriving DecidableEq, Repr

namespace LogRecord

/-- The name of the logger of a part of the program; without a part it is the program's own. -/
def loggerName (part : Option String) : String :=
  match part with
  | none | some "" => "pfgen"
  | some part => "pfgen." ++ part

/-- The names above a name, all from their last letter to their first. A name ends before a dot, and
the letter before that dot is not looked at again: of two dots in a row only one counts. -/
def namesAbove : List Char → List (List Char)
  | '.' :: c :: above => (c :: above) :: namesAbove above
  | _ :: rest => namesAbove rest
  | [] => []

/-- Whether the logger of a record is the program's own or hands its records up to it. -/
def isOwn (r : LogRecord) : Bool :=
  r.logger = "pfgen" || (namesAbove r.logger.toList.reverse).contains "pfgen".toList.reverse

def consoleLine (r : LogRecord) : String := s!"[pfgen] {r.severity.name} {r.message}\n"

/-- A moment with milliseconds after a comma. -/
def stamp (t : Timestamp) : String :=
  let two := Number.padded 2
  let date := Number.padded 4 t.year ++ '-' :: two t.month ++ '-' :: two t.day
  let clock := two t.hour ++ ':' :: two t.minute ++ ':' :: two t.second
  String.ofList (date ++ ' ' :: clock ++ ',' :: Number.padded 3 (t.microsecond / 1000))

def fileLine (now : Timestamp) (r : LogRecord) : String :=
  s!"{stamp now} {r.severity.name} {r.logger}: {r.message}\n"

end LogRecord

end PropForge
