import ShadeTree.Listing

/-!
Validation of sources. Which sources are valid is up to a checker; here is what is made of its
verdict.
-/

namespace ShadeTree

/-- A checker gives the problem of a source that it does not accept. -/
abbrev Checker := String → Option String

namespace Checker

/-- The characters that may stand between the tokens of a source. -/
def isSpace (character : Char) : Bool :=
  let code := character.toNat
  code == 0x20 || (0x09 ≤ code && code ≤ 0x0d) || code == 0x85 || code == 0x200e ||
    code == 0x200f || code == 0x2028 || code == 0x2029

/-- Every source is accepted. -/
def permissive : Checker :=
  fun _ => none

/-- A source without tokens is a module without declarations; any other has the given problem. -/
def spaceOnly (problem : String) : Checker :=
  fun source => if source.toList.all isSpace then none else some problem

/-- The messages of a failed validation, from the outermost to its cause; the context names what
the source was generated from. -/
def messages (checker : Checker) (context : Option String) (source : String) :
    Except (List String) Unit :=
  match checker source with
  | none => .ok ()
  | some problem =>
    let wrapped := (context.map fun context => context ++ " generated invalid WGSL").toList
    .error (wrapped ++ [Listing.report problem source])

end Checker

end ShadeTree
