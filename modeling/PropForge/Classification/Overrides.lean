import PropForge.Classification
import PropForge.Yaml.Basic

/-!
Tables that a project replaces: a mapping from the names of tables to their new items. Items of
any kind become texts.
-/

namespace PropForge.Classification

/-- Why a mapping gives no tables. -/
inductive OverrideFault where
  | unknownTable (key : String)
  | notIterable (kind : String)
  deriving DecidableEq, Repr

def OverrideFault.message : OverrideFault → String
  | unknownTable key => s!"Unknown classification table: {key}"
  | notIterable kind => s!"{Text.shown kind} object is not iterable"

/-- The items of a table: those of a list, the characters of a text, the keys of a mapping. -/
def itemsOf (v : Yaml) : Except OverrideFault (List Yaml) :=
  if !v.truthy then .ok []
  else match v with
    | .list items => .ok items
    | .set items => .ok items
    | .pair a b => .ok [a, b]
    | .string s => .ok (s.toList.map fun c => .string (String.ofList [c]))
    | .bytes bs => .ok (bs.map fun b => .integer b.toNat)
    | .mapping entries => .ok (entries.map (·.1))
    | v => .error (.notIterable v.kindName)

/-- The signature of an event that is given without one. -/
def plainSignature : String := "(event: React.SyntheticEvent<HTMLElement>) => void"

/-- An event: a mapping with its name and its signature, a list of both, or only the name. -/
def eventOf : Yaml → String × String
  | .mapping entries =>
    (((Yaml.entry? "name" entries).map Yaml.text).getD "",
      ((Yaml.entry? "signature" entries).map Yaml.text).getD "() => void")
  | .list [name, signature] => (name.text, signature.text)
  | .pair name signature => (name.text, signature.text)
  | v => (v.text, plainSignature)

def textsOf (v : Yaml) : Except OverrideFault (List String) := do
  return (← itemsOf v).map Yaml.text

/-- Replaces the table of a name. -/
def replaceTable (tables : Classification) (key value : Yaml) :
    Except OverrideFault Classification := do
  match key with
  | .string "core_names" => return { tables with coreNames := ← textsOf value }
  | .string "styling_keywords" => return { tables with stylingKeywords := ← textsOf value }
  | .string "accessibility_prefixes" =>
    return { tables with accessibilityPrefixes := ← textsOf value }
  | .string "accessibility_keywords" =>
    return { tables with accessibilityKeywords := ← textsOf value }
  | .string "event_prefix" => return { tables with eventPrefix := value.text }
  | .string "boolean_prefixes" => return { tables with booleanPrefixes := ← textsOf value }
  | .string "complex_type_markers" =>
    return { tables with complexTypeMarkers := ← textsOf value }
  | .string "html_props_bases" => return { tables with htmlPropsBases := ← textsOf value }
  | .string "inherited_events" =>
    return { tables with inheritedEvents := (← itemsOf value).map eventOf }
  | .string "variant_keywords" => return { tables with variantKeywords := ← textsOf value }
  | key => .error (.unknownTable key.text)

/-- The standard tables with those of a mapping in their places, taken in order. -/
def override (entries : List (Yaml × Yaml)) : Except OverrideFault Classification :=
  entries.foldlM (fun tables (key, value) => tables.replaceTable key value) standard

end PropForge.Classification
