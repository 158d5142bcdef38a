import ShadeTree.Construction

/-!
Session scripts: steps on one builder, with nodes and snapshots under names.

A probe is a node that runs steps of its own when it is generated.
-/

namespace ShadeTree.Session

open Number

/-- A value names a node of the session or is a ready expression. -/
inductive ValueRef where
  | node (name : String)
  | literal (snippet : Snippet)
  deriving DecidableEq

/-- The entries of a frame in the order of their insertion. -/
abbrev FrameRef := List (String × ValueRef)

/-- How a probe ends when its steps are through. -/
inductive Ending where
  | returns (snippet : Snippet)
  | fails (message : String)
  deriving DecidableEq

mutual

/-- How a node is made. Scopes, spaces and some operations are spelled out, and a document holds
the description of a whole tree. -/
inductive Recipe where
  | document (source : String)
  | expression (snippet : String) (type : ValueType)
  | float (value : Single) (isConst : Bool)
  | normal (space : String)
  | sample (texture : String)
  | reader (key fallback : String)
  | spelled (operation : String) (inputs : List String)
  | operation (operation : Operation) (inputs : List String)
  | context (child : String) (values : FrameRef) (type : Option ValueType)
  | physical (scope child : String)
  | probe (type : ValueType) (steps : List Step) (ending : Ending)

/-- What a session or a probe does with the builder. -/
inductive Step where
  | define (name : String) (recipe : Recipe)
  | push (values : FrameRef)
  | pop
  | get (key : String)
  | generate (node : String) (output : ValueType)
  | generateValue (value : ValueRef) (output : ValueType)
  | build (node : String) (output : ValueType)
  | coerce (snippet : Snippet) (target : ValueType)
  | registerTexture (texture : String) (dimension : Dimension)
  | declareLocal (node : String) (type : ValueType) (initializer : String)
  | normal (space : String)
  | within (values : FrameRef) (steps : List Step)
  | snapshot (name : String)
  | sameResolution (left right : String)
  | same (left right : ValueRef)
  | panic (message : String)

end

/-- The content of a node that runs steps of its own. -/
structure Probe where
  steps : List Step
  ending : Ending

end ShadeTree.Session
