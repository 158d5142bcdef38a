import ShadeTree.Config.Basic
import ShadeTree.Frames

/-!
The state of a builder: its context frames, and the locals and textures declared so far.

A declaration is found by its owner, a local by its node and a texture by its name; its index is
its place in the table.
-/

namespace ShadeTree

/-- A variable of the entry function, and the node whose value it holds. -/
structure LocalVariable where
  owner : NodeId
  name : String
  type : ValueType
  initializer : String
  deriving DecidableEq

/-- A texture with the dimension under which it is bound. -/
structure TextureBinding where
  name : String
  dimension : Dimension
  deriving DecidableEq

/-- A texture keeps the dimension under which it was registered first. -/
structure DimensionClash where
  texture : String
  registered : Dimension
  requested : Dimension
  deriving DecidableEq

def DimensionClash.message (clash : DimensionClash) : String :=
  "texture " ++ clash.texture ++ " is sampled both as " ++ clash.registered.wgsl ++ " and " ++
    clash.requested.wgsl

/-- Only frames above the floor can be popped. -/
structure Builder (Custom : Type) where
  config : Config
  frames : Frames Custom
  floor : Nat
  locals : List LocalVariable
  textures : List TextureBinding

namespace Builder

variable {Custom : Type}

def ofConfig (config : Config) : Builder Custom :=
  ⟨config, [], 0, [], []⟩

/-- A builder is made for a valid configuration only. -/
def new (config : Config) : Except ConfigError (Builder Custom) :=
  config.validate.map fun _ => ofConfig config

/-! ### Context frames -/

def depth (builder : Builder Custom) : Nat :=
  builder.frames.length

def find? (builder : Builder Custom) (key : String) : Option (Value Custom) :=
  builder.frames.find? key

def push (builder : Builder Custom) (frame : Frame Custom) : Builder Custom :=
  { builder with frames := frame :: builder.frames }

/-- None if the innermost frame lies at or below the floor. -/
def pop? (builder : Builder Custom) : Option (Frame Custom × Builder Custom) :=
  if builder.depth ≤ builder.floor then none
  else
    match builder.frames with
    | [] => none
    | frame :: outer => some (frame, { builder with frames := outer })

/-- A scope raises the floor above its own frame. -/
def enter (builder : Builder Custom) (frame : Frame Custom) : Builder Custom :=
  { builder.push frame with floor := builder.depth + 1 }

/-- Leaving a scope drops every frame above those that were there before it. -/
def leave (builder outside : Builder Custom) : Builder Custom :=
  { builder with frames := builder.frames.truncate outside.depth, floor := outside.floor }

/-! ### Declarations -/

def localPrefix : ValueType → String
  | .f32 => "nf_float_"
  | .vec2 => "nf_vec2_"
  | .vec3 => "nf_vec3_"
  | .vec4 => "nf_vec4_"
  | .mat4 => "nf_mat4_"

def localName (type : ValueType) (index : Nat) : String :=
  localPrefix type ++ toString index

/-- The place of the local of a node, which is the end of the table if it has none. -/
def localIndex (builder : Builder Custom) (owner : NodeId) : Nat :=
  builder.locals.findIdx fun declared => declared.owner == owner

/-- A node has one local; declaring it again gives the same name. -/
def declareLocal (builder : Builder Custom) (owner : NodeId) (type : ValueType)
    (initializer : String) : String × Builder Custom :=
  let index := builder.localIndex owner
  match builder.locals[index]? with
  | some declared => (declared.name, builder)
  | none =>
    let name := localName type index
    (name, { builder with locals := builder.locals ++ [⟨owner, name, type, initializer⟩] })

/-- The place of a texture, which is the end of the table if it is not registered. -/
def textureIndex (builder : Builder Custom) (name : String) : Nat :=
  builder.textures.findIdx fun binding => binding.name == name

/-- The index of the texture; registering it again under another dimension fails. -/
def registerTexture (builder : Builder Custom) (name : String) (dimension : Dimension) :
    Except DimensionClash (Nat × Builder Custom) :=
  let index := builder.textureIndex name
  match builder.textures[index]? with
  | some binding =>
    if binding.dimension = dimension then .ok (index, builder)
    else .error ⟨name, binding.dimension, dimension⟩
  | none => .ok (index, { builder with textures := builder.textures ++ [⟨name, dimension⟩] })

/-- All declarations are forgotten. -/
def reset (builder : Builder Custom) : Builder Custom :=
  { builder with locals := [], textures := [] }

end Builder

end ShadeTree
