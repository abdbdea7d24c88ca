/-!
Association lists in the order in which their keys were first put: the order in which records,
maps and groups are written out.
-/

namespace PropForge.Assoc

variable {κ α : Type} [DecidableEq κ]

/-- The value of a key. -/
def get? (key : κ) : List (κ × α) → Option α
  | [] => none
  | (k, a) :: rest => if k = key then some a else get? key rest

/-- Gives a key a value, in the key's old place or else at the end. -/
def put (key : κ) (value : α) : List (κ × α) → List (κ × α)
  | [] => [(key, value)]
  | (k, a) :: rest => if k = key then (k, value) :: rest else (k, a) :: put key value rest

/-- Puts entries one after the other: the first place of a key and its last value count. -/
def ofList (entries : List (κ × α)) : List (κ × α) :=
  entries.foldl (fun m (k, a) => put k a m) []

/-- Puts every entry of `newer` over `older`. -/
def merge (older newer : List (κ × α)) : List (κ × α) :=
  newer.foldl (fun m (k, a) => put k a m) older

def keys (m : List (κ × α)) : List κ := m.map (·.1)

/-- Values with the same key, in one group at the place of the first. -/
def group (entries : List (κ × α)) : List (κ × List α) :=
  entries.foldl (fun m (k, a) => put k ((get? k m).getD [] ++ [a]) m) []

end PropForge.Assoc
