import ShadeTree.Proofs.Program.Run

/-!
What a running program passes through.

A run is more than its end. The relations here name the machines that a program comes to on the way,
in the bodies of its scopes, after whatever part of it has ended early, and in the nodes that it
generates.
-/

namespace ShadeTree

variable {Custom Host : Type}

namespace Machine

/-- The machine in which the body of a scope starts. -/
def enter (machine : Machine Custom Host) (frame : Frame Custom) : Machine Custom Host :=
  (machine.note (.pushed machine.builder.depth frame.length)).update (machine.builder.enter frame)

/-- The machine in which a build generates its root. -/
def compiling (machine : Machine Custom Host) (root : Node Custom) (output : ValueType) :
    Machine Custom Host :=
  (machine.update machine.builder.reset).note (.compiling root.name output)

end Machine

/-- A build leaves the builder that its root leaves, or that one without declarations. -/
theorem Action.build_builder (generateNode : Node Custom → ValueType → Action Custom Host TypedTerm)
    (root : Node Custom) (output : ValueType) (start : Machine Custom Host) :
    let last := (generateNode root output (start.compiling root output)).2.builder
    (build generateNode root output start).2.builder = last ∨
      (build generateNode root output start).2.builder = last.reset := by
  unfold build Machine.compiling
  dsimp only
  split
  · rename_i ends
    exact .inl (by rw [ends]; rfl)
  · rename_i ends
    exact .inr (by rw [ends]; rfl)
  · rename_i ends
    exact .inl (by rw [ends]; rfl)
  · rename_i ends
    exact .inl (by rw [ends])

namespace Program

/-- The action with which a program begins, and what follows on its answer. -/
inductive Begins (generateNode : Node Custom → ValueType → Action Custom Host TypedTerm) :
    {α β : Type} → Program Custom Host α → Action Custom Host β → (β → Program Custom Host α) → Prop
  | inspect {α β : Type} (look : Builder Custom → Host → β × Host)
      (next : β → Program Custom Host α) :
      Begins generateNode (.inspect look next) (Action.inspect look) next
  | note {α : Type} (event : Event) (next : Program Custom Host α) :
      Begins generateNode (.note event next) (Action.note event) fun _ => next
  | push {α : Type} (frame : Frame Custom) (next : Program Custom Host α) :
      Begins generateNode (.push frame next) (Action.push frame) fun _ => next
  | pop {α : Type} (next : Option (Frame Custom) → Program Custom Host α) :
      Begins generateNode (.pop next) Action.pop next
  | within {α β : Type} (frame : Frame Custom) (body : Program Custom Host β)
      (next : β → Program Custom Host α) :
      Begins generateNode (.within frame body next) (Action.within frame (body.run generateNode)) next
  | declareLocal {α : Type} (owner : NodeId) (type : ValueType) (initializer : String)
      (next : String → Program Custom Host α) :
      Begins generateNode (.declareLocal owner type initializer next)
        (Action.declareLocal owner type initializer) next
  | registerTexture {α : Type} (name : String) (dimension : Dimension)
      (next : Nat → Program Custom Host α) :
      Begins generateNode (.registerTexture name dimension next)
        (Action.registerTexture name dimension) next
  | generate {α : Type} (node : Node Custom) (output : ValueType)
      (next : TypedTerm → Program Custom Host α) :
      Begins generateNode (.generate node output next) (generateNode node output) next
  | build {α : Type} (root : Node Custom) (output : ValueType)
      (next : Fragment → Program Custom Host α) :
      Begins generateNode (.build root output next) (Action.build generateNode root output) next
  | attempt {α β : Type} (body : Program Custom Host β)
      (next : Except Abort β → Program Custom Host α) :
      Begins generateNode (.attempt body next) (Action.attempt (body.run generateNode)) next

/-- The programs that a program turns into, each with the machine in which it starts. The bodies of
scopes and of attempts are among them, and the nodes that are generated are not. -/
inductive Reaches (generateNode : Node Custom → ValueType → Action Custom Host TypedTerm) :
    {α β : Type} → Program Custom Host α → Machine Custom Host → Program Custom Host β →
      Machine Custom Host → Prop
  | start {α : Type} (program : Program Custom Host α) (machine : Machine Custom Host) :
      Reaches generateNode program machine program machine
  | next {α β γ : Type} {program : Program Custom Host α} {action : Action Custom Host β}
      {next : β → Program Custom Host α} {rest : Program Custom Host γ} {answer : β}
      {machine middle moment : Machine Custom Host}
      (begins : Begins generateNode program action next)
      (ends : action machine = (.done answer, middle))
      (later : Reaches generateNode (next answer) middle rest moment) :
      Reaches generateNode program machine rest moment
  | scope {α β γ : Type} {frame : Frame Custom} {body : Program Custom Host β}
      {next : β → Program Custom Host α} {rest : Program Custom Host γ}
      {machine moment : Machine Custom Host}
      (inside : Reaches generateNode body (machine.enter frame) rest moment) :
      Reaches generateNode (.within frame body next) machine rest moment
  | attempt {α β γ : Type} {body : Program Custom Host β}
      {next : Except Abort β → Program Custom Host α} {rest : Program Custom Host γ}
      {machine moment : Machine Custom Host}
      (inside : Reaches generateNode body machine rest moment) :
      Reaches generateNode (.attempt body next) machine rest moment

/-- The machines that a run passes through: where one of its programs starts or ends, be it early,
and all that the nodes pass through that it generates. -/
inductive Passes (custom : Custom → NodeId → ValueType → Program Custom Host TypedTerm) :
    {α : Type} → (fuel : Nat) → Program Custom Host α → Machine Custom Host → Machine Custom Host →
      Prop
  | started {α β : Type} {fuel : Nat} {program : Program Custom Host α}
      {rest : Program Custom Host β} {machine moment : Machine Custom Host}
      (reached : Reaches (ShadeTree.generate custom fuel) program machine rest moment) :
      Passes custom fuel program machine moment
  | ended {α β : Type} {fuel : Nat} {program : Program Custom Host α}
      {rest : Program Custom Host β} {machine moment : Machine Custom Host}
      (reached : Reaches (ShadeTree.generate custom fuel) program machine rest moment) :
      Passes custom fuel program machine (rest.run (ShadeTree.generate custom fuel) moment).2
  | generated {α β : Type} {fuel : Nat} {program : Program Custom Host α} {node : Node Custom}
      {output : ValueType} {next : TypedTerm → Program Custom Host β}
      {machine middle moment : Machine Custom Host}
      (reached : Reaches (ShadeTree.generate custom (fuel + 1)) program machine
        (.generate node output next) middle)
      (inside : Passes custom fuel (node.program custom output) middle moment) :
      Passes custom (fuel + 1) program machine moment
  | built {α β : Type} {fuel : Nat} {program : Program Custom Host α} {root : Node Custom}
      {output : ValueType} {next : Fragment → Program Custom Host β}
      {machine middle moment : Machine Custom Host}
      (reached : Reaches (ShadeTree.generate custom (fuel + 1)) program machine
        (.build root output next) middle)
      (inside : Passes custom fuel (root.program custom output) (middle.compiling root output)
        moment) :
      Passes custom (fuel + 1) program machine moment

end Program

end ShadeTree
