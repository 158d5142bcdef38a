import ShadeTree.Text.Lines

/-!
The report on a source that is not valid: the problem, and the source with numbered lines.
-/

namespace ShadeTree.Listing

/-- Numbers are aligned to the right in four columns. -/
def lineNumber (number : Nat) : String :=
  let digits := toString number
  "".pushn ' ' (4 - digits.length) ++ digits

def numberedLine (index : Nat) (line : String) : String :=
  lineNumber (index + 1) ++ " | " ++ line ++ "\n"

def delimiter : String := "---\n"

def numbered (source : String) : String :=
  String.join ((Text.lines source).mapIdx numberedLine)

def report (problem source : String) : String :=
  "WGSL validation failed:\n  " ++ problem ++ "\n\nGenerated WGSL:\n" ++ delimiter ++
    numbered source ++ delimiter

end ShadeTree.Listing
