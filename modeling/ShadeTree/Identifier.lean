/-!
Identifiers made from arbitrary names.
-/

namespace ShadeTree.Identifier

def isWordCharacter (character : Char) : Bool :=
  character.isAlphanum || character == '_'

def sanitizeCharacter (character : Char) : Char :=
  if isWordCharacter character then character else '_'

/-- Every other character than an ASCII letter, an ASCII digit or the underscore becomes an
underscore, and so does the empty name. -/
def sanitize (name : String) : String :=
  if name.isEmpty then "_" else String.ofList (name.toList.map sanitizeCharacter)

def isSanitized (name : String) : Bool :=
  !name.isEmpty && sanitize name == name

def textureVariable (name : String) : String :=
  "env_tex_" ++ sanitize name

def samplerVariable (name : String) : String :=
  "env_samp_" ++ sanitize name

end ShadeTree.Identifier
