import PropForge.Text.Search
import PropForge.Text.SingleQuoted

/-!
Grammars of command lines: options by their names, which may be shortened, and arguments by their
places. What cannot be read is reported in the words of the grammar.
-/

namespace PropForge.CommandLine

/-- What an argument takes from the command line. -/
inductive Arity where
  /-- Nothing: the option itself is all. -/
  | flag
  /-- Nothing: the option asks for help. -/
  | help
  | one
  | optional
  | several
  /-- The name of a command and all that follows. -/
  | command
  deriving DecidableEq, Repr

/-- An option, or an argument that is told by its place and has no option names. -/
structure Argument where
  options : List String
  name : String
  arity : Arity
  /-- The values allowed, all if there are none here. -/
  choices : List String
  required : Bool
  deriving DecidableEq, Repr

namespace Argument

/-- An option that is there or not. -/
def flag (options : List String) (name : String) : Argument := ⟨options, name, .flag, [], false⟩

/-- An option with a value. -/
def option (names : List String) (name : String) : Argument := ⟨names, name, .one, [], false⟩

/-- An argument told by its place. -/
def place (name : String) (arity : Arity) : Argument :=
  ⟨[], name, arity, [], arity ≠ .optional⟩

def isPlace (a : Argument) : Bool := a.options.isEmpty

/-- What an argument is called in messages. -/
def label (a : Argument) : String :=
  if a.isPlace then a.name else "/".intercalate a.options

end Argument

structure Grammar where
  program : String
  /-- The usage, in lines. -/
  usage : List String
  /-- What help says after the usage, in lines. -/
  help : List String
  arguments : List Argument
  deriving DecidableEq, Repr

/-- What is wrong with a command line. -/
inductive UsageError where
  | required (labels : List String)
  | unrecognized (words : List String)
  | invalidChoice (label value : String) (choices : List String)
  | expectedOne (label : String)
  | ignoredValue (label value : String)
  | ambiguous (option : String) (candidates : List String)
  deriving DecidableEq, Repr

def UsageError.message : UsageError → String
  | required labels =>
    "the following arguments are required: " ++ ", ".intercalate labels
  | unrecognized words => "unrecognized arguments: " ++ " ".intercalate words
  | invalidChoice label value choices =>
    let allowed := ", ".intercalate (choices.map Text.shown)
    s!"argument {label}: invalid choice: {Text.shown value} (choose from {allowed})"
  | expectedOne label => s!"argument {label}: expected one argument"
  | ignoredValue label value =>
    s!"argument {label}: ignored explicit argument {Text.shown value}"
  | ambiguous option candidates =>
    let all := ", ".intercalate candidates
    s!"ambiguous option: {option} could match {all}"

/-- Why reading a command line stops. -/
inductive Stop where
  | help (grammar : Grammar)
  | misuse (grammar : Grammar) (error : UsageError)
  deriving DecidableEq, Repr

namespace Grammar

def lines (ls : List String) : String := String.join (ls.map (· ++ "\n"))

def usageText (g : Grammar) : String := lines g.usage

def helpText (g : Grammar) : String := lines (g.usage ++ [""] ++ g.help)

/-- What is said of a misuse: the usage, and what is wrong. -/
def misuseText (g : Grammar) (e : UsageError) : String :=
  g.usageText ++ s!"{g.program}: error: {e.message}\n"

/-- The options by their names, in order. -/
def options (g : Grammar) : List (String × Argument) :=
  g.arguments.flatMap fun a => a.options.map (·, a)

def option? (g : Grammar) (name : String) : Option Argument :=
  (g.options.find? fun (n, _) => n = name).map (·.2)

/-- The arguments that are told by their places. -/
def places (g : Grammar) : List Argument := g.arguments.filter Argument.isPlace

end Grammar

end PropForge.CommandLine
