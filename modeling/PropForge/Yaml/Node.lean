import PropForge.Assoc
import PropForge.Yaml.Token

/-!
The nodes of a document: texts, lists and mappings, each with the tag that says what it denotes.
An alias is the node that its anchor names.
-/

namespace PropForge.Yaml

/-- What says how a node is to be understood. -/
inductive Tag where
  /-- Told by the node itself. -/
  | untold
  /-- As `untold`, but a text in quotes counts as one without. -/
  | plain
  | named (name : String)
  deriving DecidableEq, Repr

inductive Node where
  | scalar (tag : Tag) (isPlain : Bool) (text : String)
  | list (tag : Tag) (items : List Node)
  | mapping (tag : Tag) (entries : List (Node × Node))

namespace Node

/-- A node that is left out. -/
def empty : Node := scalar .untold true ""

end Node

/-- The tokens ahead, what tag handles stand for, and the nodes that anchors name. An anchor whose
node is not complete names none. -/
structure Composer where
  tokens : List Token
  handles : List (String × String)
  anchors : List (String × Option Node)

/-- A reading of nodes. -/
abbrev Composing := StateT Composer (Except Fault)

namespace Composing

def refuse {α : Type} : Composing α := throw .malformed

def peek : Composing (Option Token) := return (← get).tokens.head?

def skip : Composing Unit := modify fun s => { s with tokens := s.tokens.drop 1 }

/-- Goes past a token if it is the next one. -/
def accept (t : Token) : Composing Bool := do
  if (← peek) = some t then
    skip
    return true
  else return false

def expect (t : Token) : Composing Unit := do
  if !(← accept t) then refuse

/-- Whether one of some tokens follows. -/
def sees (ts : List Token) : Composing Bool := do
  match ← peek with
  | some t => return ts.contains t
  | none => return false

end Composing

open Composing

section Properties

/-- The full name that a tag's handle and its rest make. -/
def tagOf (name : TagName) : Composing Tag := do
  match name.handle with
  | none => return if name.suffix = "!" then .plain else .named name.suffix
  | some handle =>
    match Assoc.get? handle (← get).handles with
    | some start =>
      let full := start ++ name.suffix
      return if full = "!" then .plain else .named full
    | none => refuse

/-- The anchor and the tag before a node, in either order. -/
def properties : Composing (Option String × Option TagName) := do
  match ← peek with
  | some (.anchor name) =>
    skip
    match ← peek with
    | some (.tag t) =>
      skip
      return (some name, some t)
    | _ => return (some name, none)
  | some (.tag t) =>
    skip
    match ← peek with
    | some (.anchor name) =>
      skip
      return (some name, some t)
    | _ => return (none, some t)
  | _ => return (none, none)

/-- Notes that an anchor's node begins. No two nodes have one anchor. -/
def beginAnchor (name : Option String) : Composing Unit := do
  match name with
  | none => return
  | some name =>
    if ((← get).anchors.find? fun (n, _) => n = name).isSome then refuse
    modify fun s => { s with anchors := (name, none) :: s.anchors }

/-- Notes the node of an anchor. -/
def endAnchor (name : Option String) (node : Node) : Composing Unit :=
  match name with
  | none => pure ()
  | some name => modify fun s => { s with anchors := Assoc.put name (some node) s.anchors }

/-- The node that an alias stands for. -/
def aliased (name : String) : Composing Node := do
  match Assoc.get? name (← get).anchors with
  | some (some node) => return node
  | _ => refuse

end Properties

/-- Where a node stands: whether blocks may begin there, and whether entries of a list may follow
without a block of their own. -/
inductive Place where
  | flow | block | blockOrEntries
  deriving DecidableEq

mutual

/-- The node ahead. -/
def node : Nat → Place → Composing Node
  | 0, _ => refuse
  | fuel + 1, place => do
    match ← peek with
    | some (.alias name) =>
      skip
      aliased name
    | _ =>
      let (anchor, tagName) ← properties
      let tag ← match tagName with
        | some t => tagOf t
        | none => pure .untold
      beginAnchor anchor
      let n ← content fuel place tag (anchor.isSome || tagName.isSome)
      endAnchor anchor n
      return n

/-- A node without its anchor and its tag. After one of those it may be left out. -/
def content : Nat → Place → Tag → Bool → Composing Node
  | 0, _, _, _ => refuse
  | fuel + 1, place, tag, optional => do
    match ← peek, place with
    | some .blockEntry, .blockOrEntries => return .list tag (← looseEntries fuel)
    | some (.scalar text isPlain), _ =>
      skip
      return .scalar tag isPlain text
    | some .listStart, _ =>
      skip
      return .list tag (← flowItems fuel true)
    | some .mappingStart, _ =>
      skip
      return .mapping tag (← flowEntries fuel true)
    | some .blockListStart, .block | some .blockListStart, .blockOrEntries =>
      skip
      return .list tag (← blockItems fuel)
    | some .blockMappingStart, .block | some .blockMappingStart, .blockOrEntries =>
      skip
      return .mapping tag (← blockEntries fuel)
    | _, _ => if optional then return .scalar tag true "" else refuse

/-- A node, left out if one of some tokens follows. -/
def nodeUnless : Nat → Place → List Token → Composing Node
  | 0, _, _ => refuse
  | fuel + 1, place, stops => do
    if ← sees stops then return .empty else node fuel place

/-- The items of a block. -/
def blockItems : Nat → Composing (List Node)
  | 0 => refuse
  | fuel + 1 => do
    if ← accept .blockEntry then
      let item ← nodeUnless fuel .block [.blockEntry, .blockEnd]
      return item :: (← blockItems fuel)
    else
      expect .blockEnd
      return []

/-- The items of a list that has no block of its own. -/
def looseEntries : Nat → Composing (List Node)
  | 0 => refuse
  | fuel + 1 => do
    if ← accept .blockEntry then
      let item ← nodeUnless fuel .block [.blockEntry, .key, .value, .blockEnd]
      return item :: (← looseEntries fuel)
    else return []

/-- The entries of a block. -/
def blockEntries : Nat → Composing (List (Node × Node))
  | 0 => refuse
  | fuel + 1 => do
    if ← accept .key then
      let key ← nodeUnless fuel .blockOrEntries [.key, .value, .blockEnd]
      let value ←
        if ← accept .value then nodeUnless fuel .blockOrEntries [.key, .value, .blockEnd]
        else pure .empty
      return (key, value) :: (← blockEntries fuel)
    else
      expect .blockEnd
      return []

/-- The items of a list in brackets. A pair is a mapping of one entry. -/
def flowItems : Nat → Bool → Composing (List Node)
  | 0, _ => refuse
  | fuel + 1, first => do
    if ← accept .listEnd then return []
    if !first then expect .entry
    if ← accept .listEnd then return []
    let item ←
      if ← accept .key then
        let key ← nodeUnless fuel .flow [.value, .entry, .listEnd]
        let value ←
          if ← accept .value then nodeUnless fuel .flow [.entry, .listEnd] else pure .empty
        pure (Node.mapping .untold [(key, value)])
      else node fuel .flow
    return item :: (← flowItems fuel false)

/-- The entries of a mapping in brackets. -/
def flowEntries : Nat → Bool → Composing (List (Node × Node))
  | 0, _ => refuse
  | fuel + 1, first => do
    if ← accept .mappingEnd then return []
    if !first then expect .entry
    if ← accept .mappingEnd then return []
    let (key, value) ←
      if ← accept .key then
        let key ← nodeUnless fuel .flow [.value, .entry, .mappingEnd]
        let value ←
          if ← accept .value then nodeUnless fuel .flow [.entry, .mappingEnd] else pure .empty
        pure (key, value)
      else
        let key ← node fuel .flow
        pure (key, Node.empty)
    return (key, value) :: (← flowEntries fuel false)

end

section Documents

/-- The handles that need no directive. -/
def standardHandles : List (String × String) := [("!", "!"), ("!!", "tag:yaml.org,2002:")]

/-- The directives before a document: at most one version, which is a first one, and no handle
twice. -/
def directives : Nat → Bool → List (String × String) → Composing (List (String × String))
  | 0, _, _ => refuse
  | fuel + 1, versioned, handles => do
    match ← peek with
    | some (.version major) =>
      if versioned || major ≠ 1 then refuse
      skip
      directives fuel true handles
    | some (.tagHandle handle start) =>
      if (Assoc.get? handle handles).isSome then refuse
      skip
      directives fuel versioned ((handle, start) :: handles)
    | some .reservedDirective =>
      skip
      directives fuel versioned handles
    | _ => return handles

def isDirective : Token → Bool
  | .version _ | .tagHandle .. | .reservedDirective => true
  | _ => false

/-- Whether nothing of a document follows. -/
def atDocumentEdge : Composing Bool := do
  match ← peek with
  | none | some .documentStart | some .documentEnd => return true
  | some t => return isDirective t

/-- The only document, nothing if there is none. -/
def document (fuel : Nat) : Composing (Option Node) := do
  match ← peek with
  | none => return none
  | some t =>
    let n ←
      if t = .documentStart || isDirective t then
        let handles ← directives fuel false []
        modify fun s => { s with handles := handles ++ standardHandles }
        expect .documentStart
        if ← atDocumentEdge then pure .empty else node fuel .block
      else node fuel .block
    modify fun s => { s with tokens := s.tokens.dropWhile (· = .documentEnd) }
    match ← peek with
    | none => return some n
    | some _ => refuse

/-- The document that tokens make. Between two tokens at most four readings nest. -/
def compose (ts : List Token) : Except Fault (Option Node) := do
  let (n, _) ← (document (4 * ts.length + 8)).run ⟨ts, standardHandles, []⟩
  return n

end Documents

end PropForge.Yaml
