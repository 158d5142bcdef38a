import ShadeTree.KeyMap
import ShadeTree.Term

/-!
Shader nodes.

A node is known by its id. The type parameter is what users of the library put into nodes of their
own; a tree of built-in nodes only has an empty one.
-/

namespace ShadeTree

open Number

/-- Nodes with one id are one node, and share what is declared for it. Ids are handed out by a counter
of 64 bits, which is taken as never reaching its wrap, so that they are natural numbers. -/
abbrev NodeId := Nat

/-- The space in which a surface normal is given. -/
inductive NormalSpace where
  | object
  | view
  | world
  deriving DecidableEq

/-- Sums and products have two operands. -/
inductive BinaryOperation where
  | add
  | multiply
  deriving DecidableEq

mutual

/-- A tree of nodes, which says what to compute but not yet in which types and contexts. -/
inductive Node (Custom : Type) where
  /-- The text of a snippet is never constant. -/
  | expression (id : NodeId) (snippet : String) (type : ValueType)
  | float (id : NodeId) (value : Single) (isConst : Bool)
  | normal (id : NodeId) (space : NormalSpace)
  /-- The child is generated under the overrides; its type stands in for a missing one. -/
  | context (id : NodeId) (type : Option ValueType) (overrides : List (String × Value Custom))
      (child : Node Custom)
  /-- The value of the key in the context is generated, and the fallback if there is none. -/
  | reader (id : NodeId) (key : String) (fallback : Node Custom)
  | sample (id : NodeId) (texture : String)
  | binary (id : NodeId) (operation : BinaryOperation) (left right : Node Custom)
  | mix (id : NodeId) (left right factor : Node Custom)
  | custom (id : NodeId) (label : String) (type : ValueType) (content : Custom)

/-- What a context installs under a key. -/
inductive Value (Custom : Type) where
  | node (tree : Node Custom)
  | literal (snippet : Snippet)

end

/-- The overrides of one context. -/
abbrev Frame (Custom : Type) := KeyMap (Value Custom)

variable {Custom : Type}

namespace Node

def id : Node Custom → NodeId
  | .expression id _ _ | .float id _ _ | .normal id _ | .context id _ _ _ | .reader id _ _
  | .sample id _ | .binary id _ _ _ | .mix id _ _ _ | .custom id _ _ _ => id

def label : Node Custom → String
  | .expression .. => "Expression"
  | .float .. => "Float"
  | .normal .. => "Normal"
  | .context .. => "Context"
  | .reader .. => "ContextValue"
  | .sample .. => "EnvironmentSample"
  | .binary .. | .mix .. => "Math"
  | .custom _ label _ _ => label

/-- Only contexts have overrides. -/
def overrides : Node Custom → Frame Custom
  | .context _ _ overrides _ => overrides
  | _ => []

/-- The type that a node declares. What it generates may have another one. -/
def type : Node Custom → ValueType
  | .expression _ _ type => type
  | .float .. => .f32
  | .normal .. => .vec3
  | .context _ type _ child => type.getD child.type
  | .reader _ _ fallback => fallback.type
  | .sample .. => .vec4
  | .binary _ _ left right => left.type.promoted right.type
  | .mix _ left right _ => left.type.promoted right.type
  | .custom _ _ type _ => type

end Node

/-- How messages refer to a node. -/
structure NodeName where
  label : String
  id : NodeId
  deriving DecidableEq

def NodeName.text (name : NodeName) : String :=
  name.label ++ "#" ++ toString name.id

def Node.name (node : Node Custom) : NodeName :=
  ⟨node.label, node.id⟩

namespace Value

def type : Value Custom → ValueType
  | .node tree => tree.type
  | .literal snippet => snippet.type

/-- Nodes are compared by their ids and literals by what they are. -/
def same : Value Custom → Value Custom → Bool
  | .node left, .node right => left.id == right.id
  | .literal left, .literal right => left == right
  | .node _, .literal _ | .literal _, .node _ => false

def text : Value Custom → String
  | .node tree => "Node(" ++ tree.name.text ++ ")"
  | .literal snippet => "Literal(" ++ snippet.text ++ ": " ++ snippet.type.wgsl ++ ")"

end Value

mutual

/-- How many nodes there are in a tree, those in overrides included. -/
def Node.size : Node Custom → Nat
  | .expression .. | .float .. | .normal .. | .sample .. | .custom .. => 1
  | .context _ _ overrides child => Value.sizeAll overrides + child.size + 1
  | .reader _ _ fallback => fallback.size + 1
  | .binary _ _ left right => left.size + right.size + 1
  | .mix _ left right factor => left.size + right.size + factor.size + 1

def Value.size : Value Custom → Nat
  | .node tree => tree.size
  | .literal _ => 0

def Value.sizeAll : List (String × Value Custom) → Nat
  | [] => 0
  | (_, value) :: rest => value.size + Value.sizeAll rest

end

mutual

/-- How many values the contexts of a tree install, those of contexts in overrides included. -/
def Node.values : Node Custom → Nat
  | .expression .. | .float .. | .normal .. | .sample .. | .custom .. => 0
  | .context _ _ overrides child => Value.countAll overrides + child.values
  | .reader _ _ fallback => fallback.values
  | .binary _ _ left right => left.values + right.values
  | .mix _ left right factor => left.values + right.values + factor.values

/-- A value counts itself and those that it installs. -/
def Value.count : Value Custom → Nat
  | .node tree => tree.values + 1
  | .literal _ => 1

def Value.countAll : List (String × Value Custom) → Nat
  | [] => 0
  | (_, value) :: rest => value.count + Value.countAll rest

end

end ShadeTree
