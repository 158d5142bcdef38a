import ShadeTree.Action
import ShadeTree.Module

/-!
Programs: what a node may do with the builder that it is given.

A program is a tree of calls, each followed by what is done with its answer. The nodes of a user
generate by such programs, and so do the built-in ones. A program that generates a node leaves it
open how nodes are generated; running it takes that as an argument.
-/

namespace ShadeTree

/-- The last parameter is the type of the answer. -/
inductive Program (Custom Host : Type) : Type → Type 1 where
  | done {α : Type} (value : α) : Program Custom Host α
  | fail {α : Type} (error : GenerationError) : Program Custom Host α
  | panic {α : Type} (message : String) : Program Custom Host α
  /-- The host sees the builder, and changes only what it keeps itself. -/
  | inspect {α β : Type} (look : Builder Custom → Host → β × Host)
      (next : β → Program Custom Host α) : Program Custom Host α
  | note {α : Type} (event : Event) (next : Program Custom Host α) : Program Custom Host α
  | push {α : Type} (frame : Frame Custom) (next : Program Custom Host α) : Program Custom Host α
  | pop {α : Type} (next : Option (Frame Custom) → Program Custom Host α) :
      Program Custom Host α
  | within {α β : Type} (frame : Frame Custom) (body : Program Custom Host β)
      (next : β → Program Custom Host α) : Program Custom Host α
  | declareLocal {α : Type} (owner : NodeId) (type : ValueType) (initializer : String)
      (next : String → Program Custom Host α) : Program Custom Host α
  | registerTexture {α : Type} (name : String) (dimension : Dimension)
      (next : Nat → Program Custom Host α) : Program Custom Host α
  | generate {α : Type} (node : Node Custom) (output : ValueType)
      (next : TypedTerm → Program Custom Host α) : Program Custom Host α
  | build {α : Type} (root : Node Custom) (output : ValueType)
      (next : Fragment → Program Custom Host α) : Program Custom Host α
  /-- The body may fail or panic, and the program goes on with how it ended. -/
  | attempt {α β : Type} (body : Program Custom Host β)
      (next : Except Abort β → Program Custom Host α) : Program Custom Host α

namespace Action

variable {Custom Host : Type}

/-- A build starts without declarations, and a failed one leaves none. -/
def build (generate : Node Custom → ValueType → Action Custom Host TypedTerm)
    (root : Node Custom) (output : ValueType) : Action Custom Host Fragment :=
  fun start =>
    let start := (start.update start.builder.reset).note (.compiling root.name output)
    match generate root output start with
    | (.done expression, machine) =>
      let fragment := machine.builder.assemble expression
      (.done fragment,
        machine.note (.compiled root.name fragment.locals.length fragment.textures.length))
    | (.aborted (.failed error), machine) => fail error (machine.update machine.builder.reset)
    | (.aborted (.panicked message), machine) => panic message machine
    | (.exhausted, machine) => (.exhausted, machine)

end Action

namespace Program

variable {Custom Host : Type}

/-- The rest follows wherever the program is done. -/
def bind {α β : Type} : Program Custom Host α → (α → Program Custom Host β) →
    Program Custom Host β
  | done value, rest => rest value
  | fail error, _ => fail error
  | panic message, _ => panic message
  | inspect look next, rest => inspect look fun answer => (next answer).bind rest
  | note event next, rest => note event (next.bind rest)
  | push frame next, rest => push frame (next.bind rest)
  | pop next, rest => pop fun answer => (next answer).bind rest
  | within frame body next, rest => within frame body fun answer => (next answer).bind rest
  | declareLocal owner type initializer next, rest =>
    declareLocal owner type initializer fun answer => (next answer).bind rest
  | registerTexture name dimension next, rest =>
    registerTexture name dimension fun answer => (next answer).bind rest
  | generate node output next, rest => generate node output fun answer => (next answer).bind rest
  | build root output next, rest => build root output fun answer => (next answer).bind rest
  | attempt body next, rest => attempt body fun answer => (next answer).bind rest

instance : Monad (Program Custom Host) where
  pure := done
  bind := bind

/-- What the program does, given how nodes are generated. -/
def run (generateNode : Node Custom → ValueType → Action Custom Host TypedTerm) {α : Type} :
    Program Custom Host α → Action Custom Host α
  | done value => .done value
  | fail error => .fail error
  | panic message => .panic message
  | inspect look next => (Action.inspect look).bind fun answer => (next answer).run generateNode
  | note event next => (Action.note event).bind fun _ => next.run generateNode
  | push frame next => (Action.push frame).bind fun _ => next.run generateNode
  | pop next => Action.pop.bind fun answer => (next answer).run generateNode
  | within frame body next =>
    (Action.within frame (body.run generateNode)).bind fun answer =>
      (next answer).run generateNode
  | declareLocal owner type initializer next =>
    (Action.declareLocal owner type initializer).bind fun answer =>
      (next answer).run generateNode
  | registerTexture name dimension next =>
    (Action.registerTexture name dimension).bind fun answer => (next answer).run generateNode
  | generate node output next =>
    (generateNode node output).bind fun answer => (next answer).run generateNode
  | build root output next =>
    (Action.build generateNode root output).bind fun answer => (next answer).run generateNode
  | attempt body next =>
    (Action.attempt (body.run generateNode)).bind fun answer => (next answer).run generateNode

end Program

end ShadeTree
