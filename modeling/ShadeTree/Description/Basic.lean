import ShadeTree.KeyMap
import ShadeTree.ValueType
import ShadeTree.Number.Binary

/-!
Graph descriptions: the data that a graph document holds. Words that choose a behaviour, such as a
scope or an operation, are still text; they are understood when the graph is built.
-/

namespace ShadeTree

open Number

/-- The values of a context are a map, so their keys ascend strictly. -/
inductive NodeDescription where
  | physicalContext (scope : String) (child : NodeDescription)
  | context (values : List (String × NodeDescription)) (child : NodeDescription)
      (type : Option ValueType)
  | expression (snippet : String) (type : ValueType)
  | float (value : Single) (isConst : Bool)
  | normal (space : String)
  | contextValue (key : String) (fallback : NodeDescription)
  | environmentSample (texture : String)
  | math (operation : String) (inputs : List NodeDescription)

/-- What a document says about itself. -/
structure Metadata where
  name : String
  created : Option String
  modified : Option String
  deriving DecidableEq

/-- A document: a tree of nodes and the type that its module returns. -/
structure GraphDescription where
  version : String
  metadata : Metadata
  output : ValueType
  root : NodeDescription

namespace GraphDescription

def defaultOutput : ValueType := .vec4

end GraphDescription

/-- The normal that a description without a space asks for. -/
def NodeDescription.defaultSpace : String := "view"

/-- The kinds of nodes that a document can hold, under the names that it gives them. -/
inductive NodeKind where
  | physicalContext
  | context
  | expression
  | float
  | normal
  | contextValue
  | environmentSample
  | math
  deriving DecidableEq

namespace NodeKind

def all : List NodeKind :=
  [physicalContext, context, expression, float, normal, contextValue, environmentSample, math]

def name : NodeKind → String
  | physicalContext => "PhysicalContext"
  | context => "Context"
  | expression => "Expression"
  | float => "Float"
  | normal => "Normal"
  | contextValue => "ContextValue"
  | environmentSample => "EnvironmentSample"
  | math => "Math"

def ofName? (name : String) : Option NodeKind :=
  all.find? fun kind => kind.name == name

def fieldNames : NodeKind → List String
  | physicalContext => ["scope", "node"]
  | context => ["values", "node", "valueType"]
  | expression => ["snippet", "valueType"]
  | float => ["value", "constant"]
  | normal => ["space"]
  | contextValue => ["key", "fallback"]
  | environmentSample => ["texture"]
  | math => ["op", "inputs"]

end NodeKind

end ShadeTree
