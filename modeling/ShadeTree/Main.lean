import ShadeTree.CommandLine

/-!
The program: it takes in the files that its arguments name, runs the command line on them, and
prints what comes of it.
-/

namespace ShadeTree.Main

def readText (path : String) : IO (Except FileError String) := do
  try
    match String.fromUTF8? (← IO.FS.readBinFile path) with
    | some text => return .ok text
    | none => return .error .notText
  catch
    | .noFileOrDirectory .. => return .error .notFound
    | failure => return .error (.inaccessible (toString failure))

/-- Arguments that are not understood name no files. -/
def readFiles (arguments : List String) : IO Files := do
  let paths :=
    match Options.parse arguments with
    | .ok options => options.graph.toList ++ options.config.toList
    | .error _ => []
  let entries ← paths.mapM fun path => return (path, ← readText path)
  return fun path => (entries.lookup path).getD (.error .notFound)

end ShadeTree.Main

/-- No checker comes with the program, so it accepts every source that it is asked to validate. -/
def main (arguments : List String) : IO UInt32 := do
  let files ← ShadeTree.Main.readFiles arguments
  let exit := ShadeTree.CommandLine.execute files .permissive arguments
  (← IO.getStdout).putStr exit.output
  (← IO.getStderr).putStr exit.errors
  return UInt32.ofNat exit.code
