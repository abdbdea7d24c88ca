/-!
What is known about a component: the contract its users see, the way it is implemented, the state
it keeps, and where and when all that was read.
-/

namespace PropForge

/-- A member of the component's props. -/
structure PropSpec where
  name : String
  type : String
  required : Bool
  category : String
  description : Option String
  deriving DecidableEq, Repr

/-- An event handler among the props, declared there or inherited from an element's props. -/
structure EventSpec where
  name : String
  signature : String
  description : Option String
  inherited : Bool
  deriving DecidableEq, Repr

/-- The values that one aspect of the component's looks can take. -/
structure VariantSpec where
  name : String
  values : List String
  type : String
  deriving DecidableEq, Repr

structure SlotSpec where
  name : String
  type : String
  description : Option String
  deriving DecidableEq, Repr

/-- What the users of a component see of it. -/
structure Contract where
  componentName : String
  props : List PropSpec
  events : List EventSpec
  variants : List VariantSpec
  slots : List SlotSpec
  /-- The accessibility props with their types, each name once. -/
  accessibility : List (String × String)
  description : Option String
  deriving DecidableEq, Repr

/-- A hook that the component calls, with what the call depends on. -/
structure HookUse where
  name : String
  dependencies : List String
  deriving DecidableEq, Repr

structure RefUse where
  name : String
  type : String
  deriving DecidableEq, Repr

/-- A context that the component provides or consumes. -/
structure ContextUse where
  name : String
  provider : Option String
  consumer : Option String
  deriving DecidableEq, Repr

structure ImportUse where
  source : String
  names : List String
  isDefault : Bool
  deriving DecidableEq, Repr

/-- How the component is implemented. -/
structure Implementation where
  type : String
  forwardRef : Bool
  hooks : List HookUse
  refs : List RefUse
  context : List ContextUse
  imports : List ImportUse
  deriving DecidableEq, Repr

structure StateVariable where
  name : String
  type : String
  defaultValue : Option String
  deriving DecidableEq, Repr

structure EffectUse where
  name : String
  dependencies : List String
  deriving DecidableEq, Repr

structure ContextState where
  name : String
  type : String
  provider : Option String
  consumer : Option String
  deriving DecidableEq, Repr

structure DerivedState where
  name : String
  logic : String
  dependencies : List String
  deriving DecidableEq, Repr

/-- The state the component keeps and the effects it runs. -/
structure StateUse where
  localState : List StateVariable
  contextState : List ContextState
  effects : List EffectUse
  derivedState : List DerivedState
  deriving DecidableEq, Repr

/-- Something wrong with a schema. -/
structure Issue where
  code : String
  message : String
  path : Option String
  deriving DecidableEq, Repr

structure Validation where
  errors : List Issue
  warnings : List Issue
  deriving DecidableEq, Repr

/-- Warnings leave a schema valid. -/
def Validation.isValid (v : Validation) : Bool := v.errors.isEmpty

/-- A moment by the calendar and the clock, with its distance from universal time in minutes if
that is known. -/
structure Timestamp where
  year : Nat
  month : Nat
  day : Nat
  hour : Nat
  minute : Nat
  second : Nat
  microsecond : Nat
  offset : Option Int
  deriving DecidableEq, Repr

/-- Where a schema comes from. -/
structure Provenance where
  sourceFile : String
  extractedAt : Timestamp
  validation : Validation
  version : String
  deriving DecidableEq, Repr

/-- All that is known about a component. -/
structure Schema where
  contract : Contract
  implementation : Implementation
  state : StateUse
  provenance : Provenance
  deriving DecidableEq, Repr

/-- The version of the form in which schemas are stored. -/
def schemaVersion : String := "1.0.0"

end PropForge
