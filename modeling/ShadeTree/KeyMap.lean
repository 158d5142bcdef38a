/-!
Finite maps with text keys, as lists of entries in ascending order of their keys.
-/

namespace ShadeTree

/-- The order makes equal maps equal lists. -/
abbrev KeyMap (α : Type) := List (String × α)

namespace KeyMap

variable {α β : Type}

def find? (key : String) : KeyMap α → Option α
  | [] => none
  | (other, value) :: rest => if other = key then some value else find? key rest

/-- The entry takes its place in the order; an entry with the same key is replaced. -/
def insert (key : String) (value : α) : KeyMap α → KeyMap α
  | [] => [(key, value)]
  | (other, old) :: rest =>
    if key = other then (key, value) :: rest
    else if key < other then (key, value) :: (other, old) :: rest
    else (other, old) :: insert key value rest

def ofList (entries : List (String × α)) : KeyMap α :=
  entries.foldl (fun map (key, value) => map.insert key value) []

def keys (map : KeyMap α) : List String :=
  map.map Prod.fst

def mapValues (change : α → β) (map : KeyMap α) : KeyMap β :=
  map.map fun (key, value) => (key, change value)

/-- The keys of a map that was built by insertion ascend strictly. -/
def Ascending (map : KeyMap α) : Prop :=
  map.keys.Pairwise (· < ·)

end KeyMap

end ShadeTree
