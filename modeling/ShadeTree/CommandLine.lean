import ShadeTree.Compilation
import ShadeTree.Validation

/-!
The command line: its options, and a run of the program on given files.
-/

namespace ShadeTree

/-- What the arguments ask for. -/
structure Options where
  graph : Option String := none
  config : Option String := none
  output : Option ValueType := none
  validate : Bool := false
  deriving DecidableEq

/-- Why the arguments ask for nothing. -/
inductive CommandLineError where
  | missingValue (option : String)
  | unknownArgument (argument : String)
  | unknownType (spelling : String)
  | missingGraph
  deriving DecidableEq

def CommandLineError.message : CommandLineError → String
  | missingValue option => "missing value for " ++ option
  | unknownArgument argument =>
    "unknown argument: " ++ argument ++ " (supported: --graph-json <graph.json>, " ++
      "--config <config.json>, --output <type>, --validate)"
  | unknownType spelling => (ReadError.unknownType (Text.fold spelling)).wording
  | missingGraph => "--graph-json <graph.json> is required"

namespace Options

/-- Of an option that is given more than once the last value counts. -/
def parseFrom (options : Options) : List String → Except CommandLineError Options
  | [] => .ok options
  | "--graph-json" :: path :: rest => parseFrom { options with graph := some path } rest
  | ["--graph-json"] => .error (.missingValue "--graph-json")
  | "--config" :: path :: rest => parseFrom { options with config := some path } rest
  | ["--config"] => .error (.missingValue "--config")
  | "--output" :: spelling :: rest =>
    match ValueType.ofSpelling? spelling with
    | some type => parseFrom { options with output := some type } rest
    | none => .error (.unknownType spelling)
  | ["--output"] => .error (.missingValue "--output")
  | "--validate" :: rest => parseFrom { options with validate := true } rest
  | argument :: _ => .error (.unknownArgument argument)

def parse (arguments : List String) : Except CommandLineError Options :=
  parseFrom {} arguments

end Options

/-- What a run prints to its output and to its errors, and its exit code. -/
structure Exit where
  code : Nat
  output : String
  errors : String
  deriving DecidableEq

namespace Exit

/-- The lines of a cause behind its first one are indented. -/
def indent (width : Nat) (text : String) : String :=
  ("\n".pushn ' ' width).intercalate (text.splitOn "\n")

def causeLine (index : Nat) (cause : String) : String :=
  let digits := toString index
  "\n" ++ "".pushn ' ' (5 - digits.length) ++ digits ++ ": " ++ indent 7 cause

/-- Several causes are numbered. -/
def causeLines : List String → String
  | [] => ""
  | [cause] => "\n\nCaused by:\n    " ++ indent 4 cause
  | causes => "\n\nCaused by:" ++ String.join (causes.mapIdx causeLine)

def failure (messages : List String) : Exit :=
  ⟨1, "", "Error: " ++ messages.headD "" ++ causeLines messages.tail ++ "\n"⟩

def success (output errors : String) : Exit :=
  ⟨0, output, errors⟩

end Exit

namespace CommandLine

/-- The messages of whatever fails first: reading the files, compiling, or the validation. -/
def compile (files : Files) (checker : Checker) (graphPath : String) (options : Options) :
    Except (List String) Exit := do
  let (graph, config) ←
    (Sources.load files ⟨graphPath, options.config⟩).mapError CompileError.messages
  let compilation ←
    (Compilation.prepare graph config options.output).mapError CompileError.messages
  let fragment ← compilation.run.1.mapError CompileError.messages
  if options.validate then
    checker.messages (some ("graph " ++ graph.metadata.name)) fragment.source
    return .success fragment.source ("[validate] " ++ graph.metadata.name ++ ": ok\n")
  else return .success fragment.source ""

/-- Arguments come first; the first thing that fails decides the exit. -/
def execute (files : Files) (checker : Checker) (arguments : List String) : Exit :=
  match Options.parse arguments with
  | .error error => .failure [error.message]
  | .ok options =>
    match options.graph with
    | none => .failure [CommandLineError.missingGraph.message]
    | some path =>
      match compile files checker path options with
      | .ok exit => exit
      | .error messages => .failure messages

end CommandLine

end ShadeTree
