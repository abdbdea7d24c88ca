import PropForge.CommandLine.Grammar

/-!
Reading a command line by a grammar. Options may stand anywhere before a command; words between
them go to the arguments told by their places, as many at a time as can be given one. What nothing
takes is left over.
-/

namespace PropForge.CommandLine

/-- What is written in one word with an option. -/
inductive Attached where
  /-- What follows an equals sign. -/
  | value (text : String)
  /-- What follows a letter directly: its value, or more letters. -/
  | tail (text : String)
  deriving DecidableEq, Repr

def Attached.text : Attached → String
  | value s => s
  | tail s => s

/-- What a word of a command line is: a plain word, two dashes that end the options, or an option,
with what is attached to it. An option may be one that the grammar lacks. -/
inductive Mark where
  | word
  | dashes
  | option (argument : Option Argument) (name : String) (attached : Option Attached)
  deriving DecidableEq, Repr

def Mark.isOption : Mark → Bool
  | option .. => true
  | _ => false

section Marking

/-- The parts before and after the first equals sign. -/
def splitValue (s : String) : String × Option String :=
  let cs := s.toList
  let name := cs.takeWhile (· ≠ '=')
  if name.length < cs.length then
    (String.ofList name, some (String.ofList (cs.drop (name.length + 1))))
  else (s, none)

def isNegativeNumber (s : String) : Bool :=
  match s.toList with
  | '-' :: cs =>
    let rest := cs.dropWhile Char.isDigit
    match rest with
    | [] => !cs.isEmpty
    | '.' :: ds => !ds.isEmpty && ds.all Char.isDigit
    | _ => false
  | _ => false

def startsWith (start s : String) : Bool := start.toList.isPrefixOf s.toList

/-- The options that a long word may be short for. -/
def longCandidates (g : Grammar) (s : String) : List (String × Argument × Option Attached) :=
  let (start, value) := splitValue s
  (g.options.filter fun (n, _) => startsWith start n).map fun (n, a) =>
    (n, a, value.map Attached.value)

/-- The options that a word with one dash may stand for: one letter with what follows it, or the
beginning of an option. -/
def shortCandidates (g : Grammar) (s : String) : List (String × Argument × Option Attached) :=
  let letter := String.ofList (s.toList.take 2)
  g.options.filterMap fun (n, a) =>
    if n = letter then some (n, a, some (.tail (String.ofList (s.toList.drop 2))))
    else if startsWith s n then some (n, a, none)
    else none

/-- The options that a word may stand for if it is the name of none. -/
def candidates (g : Grammar) (s : String) : List (String × Argument × Option Attached) :=
  if startsWith "--" s then longCandidates g s else shortCandidates g s

/-- What a word before any two dashes is. -/
def markWord (g : Grammar) (s : String) : Except UsageError Mark :=
  if !startsWith "-" s then .ok .word
  else match g.option? s with
    | some a => .ok (.option a s none)
    | none =>
      if s = "-" then .ok .word
      else
        let (name, value) := splitValue s
        match value, g.option? name with
        | some v, some a => .ok (.option a name (some (.value v)))
        | _, _ => match candidates g s with
          | [(n, a, attached)] => .ok (.option a n attached)
          | [] =>
            if isNegativeNumber s || s.toList.contains ' ' then .ok .word
            else .ok (.option none s none)
          | many => .error (.ambiguous s (many.map (·.1)))

/-- The words with what they are. After two dashes there are no options. -/
def mark (g : Grammar) : List String → Except UsageError (List (String × Mark))
  | [] => .ok []
  | s :: rest =>
    if s = "--" then .ok ((s, .dashes) :: rest.map (·, .word))
    else do
      let m ← markWord g s
      return (s, m) :: (← mark g rest)

end Marking

section Places

def dashesLength (ms : List Mark) : Nat := (ms.takeWhile (· = .dashes)).length

/-- How many words an argument takes where some words follow, nothing if it cannot be given any.
Two dashes go with the words around them. -/
def wordsFor (arity : Arity) (ms : List Mark) : Option Nat :=
  let before := dashesLength ms
  let rest := ms.drop before
  let one := before + 1 + dashesLength (rest.drop 1)
  match arity, rest.head? with
  | .one, some .word => some one
  | .optional, some .word => some one
  | .optional, _ => some before
  | .several, some .word =>
    some (before + (rest.takeWhile fun m => !m.isOption).length)
  | .command, some .word => some ms.length
  | _, _ => none

/-- How many words the next arguments take, as far as they can all be given some. -/
def placeCounts : List Argument → List Mark → List Nat
  | [], _ => []
  | a :: rest, ms =>
    match wordsFor a.arity ms with
    | some n => n :: placeCounts rest (ms.drop n)
    | none => []

end Places

/-- A reading: the arguments given with their values, in order, what is left over, and the arguments
that still wait for their places. -/
structure Reading where
  given : List (Argument × List String)
  leftOver : List String
  waiting : List Argument

/-- The values of an argument without the two dashes among them. -/
def valuesOf (a : Argument) (words : List String) : List String :=
  if a.arity = .command then words else words.erase "--"

/-- Refuses a value that is not allowed. Of a command only the name is checked. -/
def checkValues (a : Argument) (values : List String) : Except UsageError Unit :=
  let checked := if a.arity = .command then values.take 1 else values
  match checked.find? fun v => !a.choices.isEmpty && !a.choices.contains v with
  | some v => .error (.invalidChoice a.label v a.choices)
  | none => .ok ()

namespace Reading

/-- Gives an argument its words. -/
def take (r : Reading) (a : Argument) (words : List String) : Except UsageError Reading := do
  let values := valuesOf a words
  checkValues a values
  return { r with given := r.given ++ [(a, values)] }

/-- Gives the next arguments their words. -/
def takePlaces (r : Reading) : List Nat → List String → Except UsageError Reading
  | [], _ => .ok r
  | n :: counts, words =>
    match r.waiting with
    | [] => .ok r
    | a :: waiting => do
      let r ← { r with waiting }.take a (words.take n)
      r.takePlaces counts (words.drop n)

end Reading

/-- The options in one word, each with its value, and what is left of the word. -/
structure Cluster where
  options : List (Argument × Option String)
  leftOver : List String

def Cluster.before (c : Cluster) (a : Argument) : Cluster :=
  { c with options := (a, none) :: c.options }

/-- The options in a word that begins with an option and goes on with what is attached to it. A
letter without a value may be followed by others; from the first unknown one on the word is left
over. `fuel` bounds the number of letters. -/
def clusterOf (g : Grammar) : Nat → Argument → String → Option Attached →
    Except UsageError Cluster
  | _, a, _, none => .ok ⟨[(a, none)], []⟩
  | 0, a, _, some attached => .error (.ignoredValue a.label attached.text)
  | fuel + 1, a, name, some attached =>
    let ignored : Except UsageError Cluster := .error (.ignoredValue a.label attached.text)
    if a.arity = .one then .ok ⟨[(a, some attached.text)], []⟩
    else match startsWith "--" name, attached, attached.text.toList with
      | false, .tail text, c :: rest =>
        let next := String.ofList ['-', c]
        if c = '-' then ignored
        else match g.option? next, rest with
          | none, _ => .ok ⟨[(a, none)], ["-" ++ text]⟩
          | some b, [] => .ok ⟨[(a, none), (b, none)], []⟩
          | some b, '=' :: value => do
            return (← clusterOf g fuel b next (some (.value (String.ofList value)))).before a
          | some b, rest => do
            return (← clusterOf g fuel b next (some (.tail (String.ofList rest)))).before a
      | _, _, _ => ignored

/-- The options in a word. -/
def optionsIn (g : Grammar) (a : Argument) (name : String) (attached : Option Attached) :
    Except UsageError Cluster :=
  clusterOf g (((attached.map Attached.text).getD "").length + 1) a name attached

/-- Takes the options of a word. One that lacks its value takes the next word. -/
def takeOptions (g : Grammar) (r : Reading) :
    List (Argument × Option String) → List (String × Mark) →
    Except Stop (Reading × List (String × Mark))
  | [], rest => .ok (r, rest)
  | (a, value) :: others, rest =>
    let misused (e : UsageError) : Stop := .misuse g e
    match a.arity, value, rest with
    | .help, _, _ => .error (.help g)
    | .one, some v, rest => do
      let r ← (r.take a [v]).mapError misused
      takeOptions g r others rest
    | .one, none, (word, .word) :: rest => do
      let r ← (r.take a [word]).mapError misused
      takeOptions g r others rest
    | .one, none, _ => .error (misused (.expectedOne a.label))
    | _, _, rest => do
      let r ← (r.take a []).mapError misused
      takeOptions g r others rest

/-- Whether an option at the end of a word lacks a value that the next word is not. -/
def lacksValue (options : List (Argument × Option String)) (rest : List (String × Mark)) :
    Option Argument :=
  match options.getLast? with
  | some (a, none) =>
    if a.arity = .one && (rest.head?.map (·.2)) ≠ some .word then some a else none
  | _ => none

/-- Reads words in turn. Each step takes one at least, or a place. -/
def readWords (g : Grammar) : Nat → Reading → List (String × Mark) → Except Stop Reading
  | 0, r, _ => .ok r
  | fuel + 1, r, words => do
    let misused (e : UsageError) : Stop := .misuse g e
    let marks := words.map (·.2)
    let strings := words.map (·.1)
    match words with
    | (word, .option a name attached) :: rest =>
      match a with
      | none => readWords g fuel { r with leftOver := r.leftOver ++ [word] } rest
      | some a =>
        let cluster ← (optionsIn g a name attached).mapError misused
        match lacksValue cluster.options rest with
        | some a => .error (misused (.expectedOne a.label))
        | none =>
          let r := { r with leftOver := r.leftOver ++ cluster.leftOver }
          let (r, rest) ← takeOptions g r cluster.options rest
          readWords g fuel r rest
    | _ =>
      let counts := placeCounts r.waiting marks
      let n := counts.sum
      let r ← (r.takePlaces counts strings).mapError misused
      if !marks.any Mark.isOption then
        return { r with leftOver := r.leftOver ++ strings.drop n }
      else if 0 < n then readWords g fuel r (words.drop n)
      else
        let before := (marks.takeWhile fun m => !m.isOption).length
        readWords g fuel { r with leftOver := r.leftOver ++ strings.take before }
          (words.drop before)

/-- The arguments that are required and not given. -/
def missing (g : Grammar) (r : Reading) : List Argument :=
  g.arguments.filter fun a => a.required && !r.given.any fun (b, _) => b.name = a.name

/-- Reads a command line. -/
def read (g : Grammar) (words : List String) : Except Stop Reading := do
  let marked ← (mark g words).mapError (Stop.misuse g)
  let r ← readWords g (2 * words.length + 2) ⟨[], [], g.places⟩ marked
  match missing g r with
  | [] => return r
  | missing => .error (.misuse g (.required (missing.map Argument.label)))

namespace Reading

/-- Whether an option is given. -/
def has (r : Reading) (name : String) : Bool := r.given.any fun (a, _) => a.name = name

/-- The values that an argument was given, the latest ones. -/
def values (r : Reading) (name : String) : List String :=
  ((r.given.reverse.find? fun (a, _) => a.name = name).map (·.2)).getD []

/-- The value that an argument was given last. -/
def value? (r : Reading) (name : String) : Option String := (r.values name).head?

/-- The values that an option was given each time. -/
def allValues (r : Reading) (name : String) : List String :=
  (r.given.filter fun (a, _) => a.name = name).flatMap (·.2)

end Reading

end PropForge.CommandLine
