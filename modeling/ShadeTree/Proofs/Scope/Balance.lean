import ShadeTree.Proofs.Scope.Guard

/-!
Built-in nodes are generated in balance.

Only a context touches the stack, and it does so by a scope. All other built-in nodes have the nodes
that they ask for generated under the very frames that they were entered with.
-/

namespace ShadeTree

variable {Custom Host α β : Type}

/-- An action leaves the frames and the floor as they were, however it ends. -/
def Action.Restores (action : Action Custom Host α) : Prop :=
  ∀ machine, (action machine).2.builder.frames = machine.builder.frames ∧
    (action machine).2.builder.floor = machine.builder.floor

namespace Action

/-- Two actions that restore the stack do so one after the other. -/
theorem Restores.bind {action : Action Custom Host α} {next : α → Action Custom Host β}
    (first : action.Restores) (rest : ∀ answer, (next answer).Restores) :
    (action.bind next).Restores := by
  intro machine
  rcases bind_cases action next machine with ⟨answer, _, continues⟩ | stops
  · rw [continues]
    have later := rest answer (action machine).2
    exact ⟨later.1.trans (first machine).1, later.2.trans (first machine).2⟩
  · rw [stops]
    exact first machine

theorem restores_inspect (look : Builder Custom → Host → α × Host) : (inspect look).Restores :=
  fun _ => ⟨rfl, rfl⟩

theorem restores_note (event : Event) : (note event : Action Custom Host Unit).Restores :=
  fun _ => ⟨rfl, rfl⟩

/-- Declaring a local leaves the stack alone. -/
theorem restores_declareLocal (owner : NodeId) (type : ValueType) (initializer : String) :
    (declareLocal owner type initializer : Action Custom Host String).Restores := by
  intro machine
  unfold declareLocal Builder.declareLocal Machine.update
  dsimp only
  split <;> exact ⟨rfl, rfl⟩

/-- Registering a texture leaves the stack alone, also when it clashes. -/
theorem restores_registerTexture (name : String) (dimension : Dimension) :
    (registerTexture name dimension : Action Custom Host Nat).Restores := by
  intro machine
  unfold registerTexture Builder.registerTexture Machine.update
  dsimp only
  split
  · rename_i registered
    split at registered
    · split at registered <;> cases registered
      exact ⟨rfl, rfl⟩
    · cases registered
      exact ⟨rfl, rfl⟩
  · exact ⟨rfl, rfl⟩

end Action

namespace Program

/-- A flat program neither pushes nor pops, opens no scope and catches nothing. -/
def Flat {α : Type} : Program Custom Host α → Prop
  | done _ | fail _ | panic _ => True
  | inspect _ next => ∀ answer, (next answer).Flat
  | note _ next => next.Flat
  | declareLocal _ _ _ next => ∀ answer, (next answer).Flat
  | registerTexture _ _ next => ∀ answer, (next answer).Flat
  | generate _ _ next => ∀ answer, (next answer).Flat
  | push .. | pop .. | within .. | build .. | attempt .. => False

/-- A flat program that continues flat is flat. -/
theorem Flat.bind {program : Program Custom Host α} {rest : α → Program Custom Host β}
    (flat : program.Flat) (follows : ∀ answer, (rest answer).Flat) : (program.bind rest).Flat := by
  induction program with
  | done value => exact follows value
  | fail error | panic message => trivial
  | inspect look next ih => exact fun answer => ih answer (flat answer) follows
  | note event next ih => exact ih flat follows
  | declareLocal owner type initializer next ih =>
      exact fun answer => ih answer (flat answer) follows
  | registerTexture name dimension next ih => exact fun answer => ih answer (flat answer) follows
  | generate node output next ih => exact fun answer => ih answer (flat answer) follows
  | push | pop | within | build | attempt => exact flat.elim

variable {generateNode : Node Custom → ValueType → Action Custom Host TypedTerm}

/-- The first call of a flat program restores the stack, and what follows is flat again. -/
theorem Begins.flat (restores : ∀ node output, (generateNode node output).Restores)
    {program : Program Custom Host α} {action : Action Custom Host β}
    {next : β → Program Custom Host α} (begins : Begins generateNode program action next)
    (flat : program.Flat) : action.Restores ∧ ∀ answer, (next answer).Flat := by
  cases begins with
  | inspect look => exact ⟨Action.restores_inspect look, flat⟩
  | note event => exact ⟨Action.restores_note event, fun _ => flat⟩
  | declareLocal owner type initializer =>
      exact ⟨Action.restores_declareLocal owner type initializer, flat⟩
  | registerTexture name dimension => exact ⟨Action.restores_registerTexture name dimension, flat⟩
  | generate node output => exact ⟨restores node output, flat⟩
  | push | pop | within | build | attempt => exact flat.elim

/-- A flat program restores the stack when the nodes it asks for do. -/
theorem Flat.restores (restores : ∀ node output, (generateNode node output).Restores)
    {program : Program Custom Host α} (flat : program.Flat) : (program.run generateNode).Restores := by
  induction program with
  | done value | fail error | panic message => exact fun _ => ⟨rfl, rfl⟩
  | inspect look next ih =>
      exact (Action.restores_inspect look).bind fun answer => ih answer (flat answer)
  | note event next ih => exact (Action.restores_note event).bind fun _ => ih flat
  | declareLocal owner type initializer next ih =>
      exact (Action.restores_declareLocal owner type initializer).bind fun answer =>
        ih answer (flat answer)
  | registerTexture name dimension next ih =>
      exact (Action.restores_registerTexture name dimension).bind fun answer =>
        ih answer (flat answer)
  | generate node output next ih =>
      exact (restores node output).bind fun answer => ih answer (flat answer)
  | push | pop | within | build | attempt => exact flat.elim

/-- A flat program comes to all of its calls with the frames and the floor that it began with. -/
theorem Reaches.flat (restores : ∀ node output, (generateNode node output).Restores)
    {program : Program Custom Host α} {rest : Program Custom Host β}
    {machine moment : Machine Custom Host}
    (reached : Reaches generateNode program machine rest moment) (flat : program.Flat) :
    moment.builder.frames = machine.builder.frames ∧
      moment.builder.floor = machine.builder.floor := by
  induction reached with
  | start program machine => exact ⟨rfl, rfl⟩
  | @next _ _ _ _ _ _ _ _ machine _ _ begins ends later ih =>
      obtain ⟨restored, follows⟩ := begins.flat restores flat
      have same := restored machine
      rw [ends] at same
      have after := ih (follows _)
      exact ⟨after.1.trans same.1, after.2.trans same.2⟩
  | scope | attempt => exact flat.elim

end Program

namespace Node

open Program

/-! ### The programs of built-in nodes -/

theorem ofCoercion_flat {α : Type} (result : Except CoercionError α) :
    (ofCoercion result : Program Custom Host α).Flat := by
  cases result <;> trivial

theorem literal_flat (value : Number.Single) : (literal value : Program Custom Host String).Flat := by
  unfold literal
  split <;> trivial

/-- The program of an override is flat. -/
theorem value_flat (value : Value Custom) (output : ValueType) :
    (value.program output : Program Custom Host TypedTerm).Flat := by
  cases value with
  | node tree => exact fun _ => trivial
  | literal snippet => exact ofCoercion_flat _

/-- Reading the texture coordinate is flat. -/
theorem coordinateProgram_flat : (coordinateProgram : Program Custom Host TypedTerm).Flat := by
  refine Flat.bind (fun _ => trivial) fun found => ?_
  cases found with
  | some value => exact value_flat value value.type
  | none => exact Flat.bind (fun _ => trivial) fun _ => trivial

/-- Reading the roughness is flat. -/
theorem roughnessProgram_flat : (roughnessProgram : Program Custom Host TypedTerm).Flat := by
  refine Flat.bind (fun _ => trivial) fun found => ?_
  cases found with
  | some value => exact value_flat value .f32
  | none => trivial

/-- Sampling a texture is flat. -/
theorem sampleProgram_flat (texture : String) :
    (sampleProgram texture : Program Custom Host TypedTerm).Flat := by
  refine Flat.bind coordinateProgram_flat fun coordinate => ?_
  cases Dimension.ofCoordinate? coordinate.type with
  | none => trivial
  | some dimension =>
      refine Flat.bind roughnessProgram_flat fun roughness => ?_
      refine Flat.bind (fun _ => trivial) fun config => ?_
      refine Flat.bind (literal_flat config.envMaxMip) fun _ => ?_
      exact Flat.bind (fun _ => trivial) fun _ => trivial

/-- Generating and unifying two operands is flat. -/
theorem operandsProgram_flat (left right : Node Custom) :
    (operandsProgram left right : Program Custom Host _).Flat :=
  Flat.bind (fun _ => trivial) fun _ => Flat.bind (fun _ => trivial) fun _ => ofCoercion_flat _

/-- Writing or declaring a number is flat. -/
theorem floatProgram_flat (id : NodeId) (value : Number.Single) (isConst : Bool) :
    (floatProgram id value isConst : Program Custom Host TypedTerm).Flat := by
  refine Flat.bind (literal_flat value) fun text => ?_
  cases isConst with
  | true => trivial
  | false => exact Flat.bind (fun _ => trivial) fun _ => trivial

/-- Reading a key with a fallback is flat. -/
theorem readerProgram_flat (key : String) (fallback : Node Custom) (output : ValueType) :
    (readerProgram key fallback output : Program Custom Host TypedTerm).Flat := by
  refine Flat.bind (fun _ => trivial) fun found => ?_
  cases found with
  | some value => exact value_flat value output
  | none => exact fun _ => trivial

def isContext : Node Custom → Bool
  | .context .. => true
  | _ => false

/-- Among built-in nodes, only contexts are not flat. -/
theorem program_flat (custom : Empty → NodeId → ValueType → Program Empty Host TypedTerm)
    (output : ValueType) (node : Node Empty) (plain : node.isContext = false) :
    (node.program custom output).Flat := by
  cases node with
  | expression id snippet type => trivial
  | float id value isConst => exact floatProgram_flat id value isConst
  | normal id space => exact Flat.bind (fun _ => trivial) fun _ => trivial
  | context id type overrides child => cases plain
  | reader id key fallback => exact readerProgram_flat key fallback output
  | sample id texture => exact sampleProgram_flat texture
  | binary id operation left right =>
      exact Flat.bind (operandsProgram_flat left right) fun _ => trivial
  | mix id left right factor =>
      exact Flat.bind (operandsProgram_flat left right) fun _ =>
        Flat.bind (fun _ => trivial) fun _ => trivial
  | custom id label type content => exact content.elim

/-- The frames in which a node has others generated, given those that it was entered with. -/
def childFrames (frames : Frames Custom) : Node Custom → Frames Custom
  | .context _ _ overrides _ => overrides :: frames
  | _ => frames

end Node

/-- A tree of built-in nodes is generated in balance, by induction on the fuel. -/
theorem generate_restores (custom : Empty → NodeId → ValueType → Program Empty Host TypedTerm)
    (fuel : Nat) (node : Node Empty) (output : ValueType) :
    (generate custom fuel node output).Restores := by
  induction fuel generalizing node output with
  | zero => exact fun _ => ⟨rfl, rfl⟩
  | succ fuel ih =>
      intro machine
      cases node with
      | context id type overrides child =>
          exact context_restores custom (fuel + 1) id type overrides child output machine
      | expression | float | normal | reader | sample | binary | mix | custom =>
          rw [generate_succ_machine]
          exact (Node.program_flat custom output _ rfl).restores ih machine

/-- Every node that a context asks for is generated with the overrides on top of the stack. -/
theorem Program.Reaches.of_context
    {generateNode : Node Custom → ValueType → Action Custom Host TypedTerm}
    {overrides : Frame Custom} {child asked : Node Custom} {output type : ValueType}
    {next : TypedTerm → Program Custom Host β} {machine moment : Machine Custom Host}
    (reached : Reaches generateNode
      (.within overrides (generated child output) .done : Program Custom Host TypedTerm) machine
      (.generate asked type next) moment) :
    moment.builder.frames = overrides :: machine.builder.frames := by
  cases reached with
  | next begins ends later =>
      cases begins
      cases later with
      | next begins => cases begins
  | scope inside =>
      cases inside with
      | start => rfl
      | next begins ends later =>
          cases begins
          cases later with
          | next begins => cases begins

/-- A tree of built-in nodes leaves the frames and the floor as they were, whether its generation
finishes or fails at any depth. Whatever node it asks for on the way is generated under the frames
that it was entered with itself, except for the child of a context, which has the overrides of that
context on top of them. -/
theorem generate_restores_stack (custom : Empty → NodeId → ValueType → Program Empty Host TypedTerm)
    (fuel : Nat) (node : Node Empty) (output : ValueType) (machine : Machine Empty Host) :
    let after := (generate custom fuel node output machine).2.builder
    (after.frames = machine.builder.frames ∧ after.floor = machine.builder.floor) ∧
      ∀ {β : Type} (asked : Node Empty) (type : ValueType)
        (next : TypedTerm → Program Empty Host β) (moment : Machine Empty Host),
        Program.Reaches (generate custom fuel) (node.program custom output) machine
          (.generate asked type next) moment →
        moment.builder.frames = node.childFrames machine.builder.frames ∧
          (node.isContext = false → moment.builder.floor = machine.builder.floor) := by
  dsimp only
  refine ⟨generate_restores custom fuel node output machine, ?_⟩
  intro β asked type next moment reached
  have restores := generate_restores custom fuel
  cases node with
  | context id declared overrides child => exact ⟨reached.of_context, fun plain => by cases plain⟩
  | expression | float | normal | reader | sample | binary | mix | custom =>
      obtain ⟨frames, floor⟩ := reached.flat restores (Node.program_flat custom output _ rfl)
      exact ⟨frames, fun _ => floor⟩

end ShadeTree
