import ShadeTree.Builder
import ShadeTree.Coercion

/-!
Actions on a builder: how they end, and what they report on the way.

However an action ends, the builder stays in the state that the action left it in.
-/

namespace ShadeTree

open Number

/-- What keeps a node from giving an expression. -/
inductive GenerationError where
  | coercion (cause : CoercionError)
  | notFinite (value : Single)
  | badCoordinate (found : ValueType)
  | dimensionClash (clash : DimensionClash)
  /-- What a node generated cannot be converted to the type that was asked for. -/
  | unusable (node : NodeName) (output : ValueType) (cause : CoercionError)
  /-- A node of a user failed. -/
  | custom (message : String)
  deriving DecidableEq

/-- The messages of an error, from the outermost to its cause. -/
def GenerationError.messages : GenerationError → List String
  | coercion cause => [cause.message]
  | notFinite value => ["float literal must be finite, got " ++ value.text .plain]
  | badCoordinate found => ["EnvironmentSample.uv must be vec2f or vec3f, got " ++ found.wgsl]
  | dimensionClash clash => [clash.message]
  | unusable node output cause =>
    [node.text ++ " result cannot be used as " ++ output.wgsl, cause.message]
  | custom message => [message]

/-- What ends an action early: an error, or the panic of a user's node. -/
inductive Abort where
  | failed (error : GenerationError)
  | panicked (message : String)
  deriving DecidableEq

/-- An action that used up its fuel has no result. -/
inductive Outcome (α : Type) where
  | done (value : α)
  | aborted (cause : Abort)
  | exhausted

/-- A step worth a line in the log. -/
inductive Event where
  | pushed (depth count : Nat)
  | popped (depth : Nat)
  | refused (floor : Nat)
  | restored (depth : Nat)
  | resolved (key value : String)
  | compiling (root : NodeName) (output : ValueType)
  | compiled (root : NodeName) (locals textures : Nat)
  deriving DecidableEq

namespace Event

def text : Event → String
  | pushed depth count =>
    "TRACE push context frame " ++ toString depth ++ " (" ++ toString count ++ " keys)"
  | popped depth => "TRACE pop context frame " ++ toString depth
  | refused floor => "WARN pop_context below scope floor " ++ toString floor ++ " ignored"
  | restored depth => "TRACE restored context to depth " ++ toString depth
  | resolved key value => "TRACE context " ++ key ++ " -> " ++ value
  | compiling root output => "DEBUG compile " ++ root.text ++ " as " ++ output.wgsl
  | compiled root locals textures =>
    "DEBUG compiled " ++ root.text ++ ": " ++ toString locals ++ " locals, " ++
      toString textures ++ " textures"

end Event

/-- A machine is a builder with what its host keeps beside it and the log of its events, the last
one first. -/
structure Machine (Custom Host : Type) where
  builder : Builder Custom
  host : Host
  log : List Event

namespace Machine

variable {Custom Host : Type}

def note (machine : Machine Custom Host) (event : Event) : Machine Custom Host :=
  { machine with log := event :: machine.log }

def update (machine : Machine Custom Host) (builder : Builder Custom) : Machine Custom Host :=
  { machine with builder }

end Machine

/-- An action ends in some way and leaves a machine behind, whatever the way. -/
def Action (Custom Host α : Type) : Type :=
  Machine Custom Host → Outcome α × Machine Custom Host

namespace Action

variable {Custom Host α β : Type}

def done (value : α) : Action Custom Host α :=
  fun machine => (.done value, machine)

def abort (cause : Abort) : Action Custom Host α :=
  fun machine => (.aborted cause, machine)

def fail (error : GenerationError) : Action Custom Host α :=
  abort (.failed error)

def panic (message : String) : Action Custom Host α :=
  abort (.panicked message)

def exhausted : Action Custom Host α :=
  fun machine => (.exhausted, machine)

/-- Only a value is passed on; any other end is the end of the whole. -/
def bind (action : Action Custom Host α) (next : α → Action Custom Host β) :
    Action Custom Host β :=
  fun machine =>
    match action machine with
    | (.done value, machine) => next value machine
    | (.aborted cause, machine) => (.aborted cause, machine)
    | (.exhausted, machine) => (.exhausted, machine)

instance : Monad (Action Custom Host) where
  pure := done
  bind := bind

/-- Failure and panic become results; exhaustion cannot be caught. -/
def attempt (action : Action Custom Host α) : Action Custom Host (Except Abort α) :=
  fun machine =>
    match action machine with
    | (.done value, machine) => (.done (.ok value), machine)
    | (.aborted cause, machine) => (.done (.error cause), machine)
    | (.exhausted, machine) => (.exhausted, machine)

def inspect (look : Builder Custom → Host → α × Host) : Action Custom Host α :=
  fun machine =>
    let (value, host) := look machine.builder machine.host
    (.done value, { machine with host })

def note (event : Event) : Action Custom Host Unit :=
  fun machine => (.done (), machine.note event)

def push (frame : Frame Custom) : Action Custom Host Unit :=
  fun machine =>
    (.done (),
      (machine.note (.pushed machine.builder.depth frame.length)).update
        (machine.builder.push frame))

def pop : Action Custom Host (Option (Frame Custom)) :=
  fun machine =>
    match machine.builder.pop? with
    | none => (.done none, machine.note (.refused machine.builder.floor))
    | some (frame, builder) =>
      (.done (some frame), (machine.note (.popped builder.depth)).update builder)

/-- The frame lies on the stack while the body runs. However the body ends, the stack is cut back
to its depth before and the floor is put back. -/
def within (frame : Frame Custom) (body : Action Custom Host α) : Action Custom Host α :=
  fun outside =>
    let inside :=
      (outside.note (.pushed outside.builder.depth frame.length)).update
        (outside.builder.enter frame)
    let (outcome, after) := body inside
    (outcome,
      (after.note (.restored outside.builder.depth)).update (after.builder.leave outside.builder))

def declareLocal (owner : NodeId) (type : ValueType) (initializer : String) :
    Action Custom Host String :=
  fun machine =>
    let (name, builder) := machine.builder.declareLocal owner type initializer
    (.done name, machine.update builder)

def registerTexture (name : String) (dimension : Dimension) : Action Custom Host Nat :=
  fun machine =>
    match machine.builder.registerTexture name dimension with
    | .ok (index, builder) => (.done index, machine.update builder)
    | .error clash => fail (.dimensionClash clash) machine

def reset : Action Custom Host Unit :=
  fun machine => (.done (), machine.update machine.builder.reset)

/-- What a node generated is converted to the type that was asked for. -/
def finish (node : NodeName) (output : ValueType) (expression : TypedTerm) :
    Action Custom Host TypedTerm :=
  match expression.coerce output with
  | .ok expression => done expression
  | .error cause => fail (.unusable node output cause)

end Action

end ShadeTree
