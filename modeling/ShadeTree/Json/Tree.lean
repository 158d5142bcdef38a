import ShadeTree.Number.Numeral

/-!
JSON documents as trees.

A tree also describes a text that stops being JSON: it holds everything in front of the first
fault, and then the fault in its place. So a reader that goes through the tree from left to right
meets the faults of the text and those of the data in the order of the text.
-/

namespace ShadeTree

/-- A text at fault is malformed at some character or ends before the document is complete. -/
inductive Fault where
  | malformed
  | truncated
  deriving DecidableEq

/-- A value that nobody asks for is passed over with fewer checks than one that is read, so a place
may show another fault then. -/
structure Problem where
  whenRead : Fault
  whenSkipped : Fault
  deriving DecidableEq

namespace Problem

def malformed : Problem := ⟨.malformed, .malformed⟩

def truncated : Problem := ⟨.truncated, .truncated⟩

/-- A number that the text cuts short is malformed if it is passed over. -/
def cutNumber : Problem := ⟨.truncated, .malformed⟩

/-- A text that the document cuts short after an escape that names no character. -/
def cutText : Problem := ⟨.malformed, .truncated⟩

end Problem

open Number

mutual

/-- A string without content has an escape in it that names no character. -/
inductive Json where
  | null
  | flag (value : Bool)
  | number (numeral : Numeral)
  | string (content : Option String)
  | array (items : Items)
  | object (members : Members)
  | broken (problem : Problem)

/-- The items of an array, up to its end or to a fault. -/
inductive Items where
  | close
  | stop (problem : Problem)
  | item (value : Json) (rest : Items)

/-- The members of an object, up to its end or to a fault. -/
inductive Members where
  | close
  | stop (problem : Problem)
  | member (key : Option String) (value : Json) (rest : Members)

end

deriving instance DecidableEq for Json, Items, Members

namespace Items

def ofList : List Json → Items
  | [] => .close
  | value :: rest => .item value (ofList rest)

def toList : Items → List Json
  | .close => []
  | .stop _ => []
  | .item value rest => value :: rest.toList

end Items

namespace Members

def ofList : List (String × Json) → Members
  | [] => .close
  | (key, value) :: rest => .member (some key) value (ofList rest)

/-- The members with a readable key. -/
def toList : Members → List (String × Json)
  | .close => []
  | .stop _ => []
  | .member (some key) value rest => (key, value) :: rest.toList
  | .member none _ rest => rest.toList

end Members

end ShadeTree
