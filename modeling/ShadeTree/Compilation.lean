import ShadeTree.Config.Reader
import ShadeTree.Description.Reader
import ShadeTree.Generation

/-!
Compiling a graph: from the documents to the fragment, and the ways in which that fails.
-/

namespace ShadeTree

/-! ### Documents -/

/-- Why there is no text under a path. -/
inductive FileError where
  | notFound
  | notText
  /-- The system gives another reason. -/
  | inaccessible (reason : String)
  deriving DecidableEq

def FileError.message : FileError → String
  | notFound => "io NotFound"
  | notText => "io InvalidData"
  | inaccessible reason => "io " ++ reason

/-- The texts that paths lead to. -/
abbrev Files := String → Except FileError String

/-- Why there is no graph; a cause is wrapped by the place where it was met. -/
inductive GraphError where
  | unreadable (path : String) (cause : FileError)
  | malformed (cause : ReadError)
  | inFile (path : String) (cause : GraphError)
  deriving DecidableEq

def GraphError.messages : GraphError → List String
  | unreadable path cause => ["failed to read graph json at " ++ path, cause.message]
  | malformed cause => ["failed to parse graph json", cause.message]
  | inFile path cause => ("invalid graph json " ++ path) :: cause.messages

namespace GraphDescription

def parse (source : String) : Except GraphError GraphDescription :=
  (ofText source).mapError .malformed

def load (files : Files) (path : String) : Except GraphError GraphDescription := do
  let source ← (files path).mapError (.unreadable path)
  (parse source).mapError (.inFile path)

end GraphDescription

/-- Why there is no configuration; a cause is wrapped by the place where it was met. -/
inductive ConfigDocumentError where
  | unreadable (path : String) (cause : FileError)
  | malformed (cause : ReadError)
  | invalid (cause : ConfigError)
  | inFile (path : String) (cause : ConfigDocumentError)
  deriving DecidableEq

def ConfigDocumentError.messages : ConfigDocumentError → List String
  | unreadable path cause => ["failed to read builder config at " ++ path, cause.message]
  | malformed cause => ["failed to parse builder config json", cause.message]
  | invalid cause => [cause.message]
  | inFile path cause => ("invalid builder config " ++ path) :: cause.messages

namespace Config

/-- A configuration is read and then validated. -/
def parse (source : String) : Except ConfigDocumentError Config := do
  let config ← (ofText source).mapError .malformed
  config.validate.mapError .invalid
  return config

def load (files : Files) (path : String) : Except ConfigDocumentError Config := do
  let source ← (files path).mapError (.unreadable path)
  (parse source).mapError (.inFile path)

end Config

/-! ### Compiling -/

/-- Why there is no fragment, by the stage that failed. -/
inductive CompileError where
  | output (spelling : String)
  | graph (cause : GraphError)
  | config (cause : ConfigDocumentError)
  | construction (graphName : String) (cause : ConstructionError)
  | builder (cause : ConfigError)
  | generation (cause : GenerationError)
  | panicked (message : String)
  /-- A node lies within itself with every key resolved alike. -/
  | endless
  deriving DecidableEq

/-- The messages of an error, from the outermost to its cause. -/
def CompileError.messages : CompileError → List String
  | .output spelling => [(ReadError.unknownType (Text.fold spelling)).wording]
  | .graph cause => cause.messages
  | .config cause => cause.messages
  | .construction graphName cause => ("graph " ++ graphName) :: cause.messages
  | .builder cause => ["invalid builder config", cause.message]
  | .generation cause => cause.messages
  | .panicked message => [message]
  | .endless => ["generation does not end"]

def ValueType.parse (spelling : String) : Except CompileError ValueType :=
  match ofSpelling? spelling with
  | some type => .ok type
  | none => .error (.output spelling)

/-- The tree of a graph. Ids are counted from the given one. -/
def GraphDescription.buildRoot {Custom : Type} (graph : GraphDescription) (next : NodeId) :
    Except CompileError (Node Custom) × NodeId :=
  let built : Except ConstructionError (Node Custom) × NodeId := graph.root.build.run next
  (built.1.mapError (.construction graph.metadata.name), built.2)

/-- A tree of built-in nodes, and the builder that compiles it. -/
structure Compilation where
  root : Node Empty
  output : ValueType
  machine : Machine Empty Unit

namespace Compilation

/-- How many nodes there are in the root and in the frames. -/
def size (compilation : Compilation) : Nat :=
  compilation.machine.builder.frames.foldl (fun size frame => size + Value.sizeAll frame)
    compilation.root.size

/-- How many values the frames hold and the contexts install. -/
def values (compilation : Compilation) : Nat :=
  compilation.machine.builder.frames.foldl (fun count frame => count + Value.countAll frame)
    compilation.root.values

/-- A node that is generated within itself, with every key resolved alike, is so again and again.
Every value is or is not what its key is resolved to, so there are at most `2 ^ values` ways to
resolve all keys, and generation that ends lies no deeper than each node in each of these ways. -/
def fuel (compilation : Compilation) : Nat :=
  compilation.size * Nat.pow 2 compilation.values

/-- The output is that of the graph unless another one is given. -/
def prepare (graph : GraphDescription) (config : Config) (output : Option ValueType) :
    Except CompileError Compilation := do
  let root ← (graph.buildRoot 0).1
  let builder ← (Builder.new config).mapError CompileError.builder
  return ⟨root, output.getD graph.output, ⟨builder, (), []⟩⟩

/-- A compilation can be run again; its builder is then in the state of the last run. -/
def run (compilation : Compilation) : Except CompileError Fragment × Compilation :=
  let action :=
    Action.build (generate (fun content => content.elim) compilation.fuel) compilation.root
      compilation.output
  let (outcome, machine) := action compilation.machine
  let result : Except CompileError Fragment :=
    match outcome with
    | .done fragment => .ok fragment
    | .aborted (.failed cause) => .error (.generation cause)
    | .aborted (.panicked message) => .error (.panicked message)
    | .exhausted => .error .endless
  (result, { compilation with machine })

/-- Whether compiling once more gives the same module as the fragment. -/
def repeats (compilation : Compilation) (fragment : Fragment) : Bool × Compilation :=
  let (result, compilation) := compilation.run
  match result with
  | .ok again => (again.source == fragment.source, compilation)
  | .error _ => (false, compilation)

end Compilation

/-- What is asked for: the graph and the configuration as texts, and a spelling of the output. -/
structure Request where
  graph : String
  config : Option String
  output : Option String

/-- The spelling of the output comes first, then the graph, then the configuration. -/
def Request.prepare (request : Request) : Except CompileError Compilation := do
  let output ← request.output.mapM ValueType.parse
  let graph ← (GraphDescription.parse request.graph).mapError CompileError.graph
  let config ←
    match request.config with
    | some source => (Config.parse source).mapError CompileError.config
    | none => pure Config.default
  Compilation.prepare graph config output

/-- A graph and a configuration from files. -/
structure Sources where
  graph : String
  config : Option String

namespace Sources

def load (files : Files) (sources : Sources) :
    Except CompileError (GraphDescription × Config) := do
  let graph ← (GraphDescription.load files sources.graph).mapError CompileError.graph
  let config ←
    match sources.config with
    | some path => (Config.load files path).mapError CompileError.config
    | none => pure Config.default
  return (graph, config)

def prepare (files : Files) (sources : Sources) (output : Option ValueType) :
    Except CompileError Compilation := do
  let (graph, config) ← sources.load files
  Compilation.prepare graph config output

end Sources

end ShadeTree
