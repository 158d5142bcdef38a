import ShadeTree.Proofs.Declaration.Ledger
import ShadeTree.Proofs.Meaning.Realization
import ShadeTree.Proofs.Program.Moments

/-!
The history of a builder's tables.

Whatever a program does, and however it or a part of it ends, the tables are at every moment what the
steps up to it make of empty ones. So the indices of a ledger fit them throughout.
-/

namespace ShadeTree

variable {Custom Host α β : Type}

/-! ### Steps of runs -/

/-- The steps of an action, and then those of what follows on its answer. -/
def Action.stepsThen (first : Machine Custom Host → List TableStep) (action : Action Custom Host α)
    (next : α → Machine Custom Host → List TableStep) (machine : Machine Custom Host) :
    List TableStep :=
  first machine ++
    match action machine with
    | (.done answer, middle) => next answer middle
    | (.aborted _, _) | (.exhausted, _) => []

/-- A failed build ends with a reset. -/
def Outcome.closing : Outcome α → List TableStep
  | .aborted (.failed _) => [.reset]
  | .done _ | .aborted (.panicked _) | .exhausted => []

/-- A build starts with a reset of its own. -/
def Action.buildSteps (generateNode : Node Custom → ValueType → Action Custom Host TypedTerm)
    (nodeSteps : Node Custom → ValueType → Machine Custom Host → List TableStep)
    (root : Node Custom) (output : ValueType) (machine : Machine Custom Host) : List TableStep :=
  let start := machine.compiling root output
  .reset :: (nodeSteps root output start ++ (generateNode root output start).1.closing)

/-- What a run of the program does to the tables, given what the generation of nodes does to them. -/
def Program.tableSteps (generateNode : Node Custom → ValueType → Action Custom Host TypedTerm)
    (nodeSteps : Node Custom → ValueType → Machine Custom Host → List TableStep) {α : Type} :
    Program Custom Host α → Machine Custom Host → List TableStep
  | done _ | fail _ | panic _ => fun _ => []
  | inspect look next =>
    (Action.inspect look).stepsThen (fun _ => []) fun answer =>
      (next answer).tableSteps generateNode nodeSteps
  | note event next =>
    (Action.note event).stepsThen (fun _ => []) fun _ => next.tableSteps generateNode nodeSteps
  | push frame next =>
    (Action.push frame).stepsThen (fun _ => []) fun _ => next.tableSteps generateNode nodeSteps
  | pop next =>
    Action.pop.stepsThen (fun _ => []) fun answer =>
      (next answer).tableSteps generateNode nodeSteps
  | within frame body next =>
    (Action.within frame (body.run generateNode)).stepsThen
      (fun machine => body.tableSteps generateNode nodeSteps (machine.enter frame)) fun answer =>
        (next answer).tableSteps generateNode nodeSteps
  | declareLocal owner type initializer next =>
    (Action.declareLocal owner type initializer).stepsThen
      (fun _ => [.declare owner type initializer]) fun answer =>
        (next answer).tableSteps generateNode nodeSteps
  | registerTexture name dimension next =>
    (Action.registerTexture name dimension).stepsThen (fun _ => [.register name dimension])
      fun answer => (next answer).tableSteps generateNode nodeSteps
  | generate node output next =>
    (generateNode node output).stepsThen (nodeSteps node output) fun answer =>
      (next answer).tableSteps generateNode nodeSteps
  | build root output next =>
    (Action.build generateNode root output).stepsThen
      (Action.buildSteps generateNode nodeSteps root output) fun answer =>
        (next answer).tableSteps generateNode nodeSteps
  | attempt body next =>
    (Action.attempt (body.run generateNode)).stepsThen (body.tableSteps generateNode nodeSteps)
      fun answer => (next answer).tableSteps generateNode nodeSteps

/-- What the generation of a node does to the tables. -/
def generationSteps (custom : Custom → NodeId → ValueType → Program Custom Host TypedTerm) :
    (fuel : Nat) → Node Custom → ValueType → Machine Custom Host → List TableStep
  | 0, _, _ => fun _ => []
  | fuel + 1, node, output =>
    (node.program custom output).tableSteps (generate custom fuel) (generationSteps custom fuel)

/-- What a run does to the tables, with user nodes that generate by the given programs. -/
def Program.history (custom : Custom → NodeId → ValueType → Program Custom Host TypedTerm)
    (fuel : Nat) (program : Program Custom Host α) (machine : Machine Custom Host) :
    List TableStep :=
  program.tableSteps (ShadeTree.generate custom fuel) (generationSteps custom fuel) machine

/-! ### Replaying a history -/

/-- A ledger of the builder goes through the steps without ever breaking and is then one of the
builder that the action leaves. -/
def Action.Records (steps : Machine Custom Host → List TableStep) (action : Action Custom Host α) :
    Prop :=
  ∀ machine (ledger : Ledger), ledger.Represents machine.builder →
    ∃ next, ledger.replay (steps machine) = some next ∧ next.Represents (action machine).2.builder

namespace Action

/-- An action that leaves the tables as they are makes no steps. -/
theorem records_of_same {action : Action Custom Host α}
    (locals : ∀ machine, (action machine).2.builder.locals = machine.builder.locals)
    (textures : ∀ machine, (action machine).2.builder.textures = machine.builder.textures) :
    action.Records fun _ => [] :=
  fun machine ledger represents =>
    ⟨ledger, rfl, represents.of_same (locals machine) (textures machine)⟩

/-- A sequence makes the steps of its first part, and those of the second one if it gets there. -/
theorem Records.bind {steps : Machine Custom Host → List TableStep} {action : Action Custom Host α}
    {next : α → Action Custom Host β} {later : α → Machine Custom Host → List TableStep}
    (first : action.Records steps) (rest : ∀ answer, (next answer).Records (later answer)) :
    (action.bind next).Records (action.stepsThen steps later) := by
  intro machine ledger represents
  obtain ⟨middle, replayed, after⟩ := first machine ledger represents
  unfold stepsThen Action.bind
  rcases ends : action machine with ⟨outcome, last⟩
  rw [ends] at after
  cases outcome with
  | done answer =>
      obtain ⟨final, continued, finished⟩ := rest answer last middle after
      refine ⟨final, ?_, finished⟩
      rw [Ledger.replay_append, replayed]
      exact continued
  | aborted cause | exhausted =>
      refine ⟨middle, ?_, after⟩
      rw [List.append_nil]
      exact replayed

/-- A pop does not touch the tables. -/
theorem records_pop : (pop : Action Custom Host (Option (Frame Custom))).Records fun _ => [] := by
  have same (machine : Machine Custom Host) :
      (pop machine).2.builder.locals = machine.builder.locals ∧
        (pop machine).2.builder.textures = machine.builder.textures := by
    unfold pop Builder.pop?
    split
    · exact ⟨rfl, rfl⟩
    · rename_i popped
      split at popped
      · cases popped
      · split at popped <;> cases popped
        exact ⟨rfl, rfl⟩
  exact records_of_same (fun machine => (same machine).1) fun machine => (same machine).2

/-- A scope makes the steps of its body. -/
theorem Records.within {steps : Machine Custom Host → List TableStep} {body : Action Custom Host α}
    (inside : body.Records steps) (frame : Frame Custom) :
    (Action.within frame body).Records fun machine => steps (machine.enter frame) := by
  intro machine ledger represents
  obtain ⟨next, replayed, after⟩ :=
    inside (machine.enter frame) ledger (represents.of_same rfl rfl)
  exact ⟨next, replayed, after.of_same rfl rfl⟩

/-- Declaring a local is one step. -/
theorem records_declareLocal (owner : NodeId) (type : ValueType) (initializer : String) :
    (declareLocal owner type initializer : Action Custom Host String).Records
      fun _ => [.declare owner type initializer] := by
  intro machine ledger represents
  obtain ⟨next, applied, after⟩ := represents.declare owner type initializer
  exact ⟨next, by simpa [Ledger.replay] using applied, after⟩

/-- Also a registration that is refused is a step. -/
theorem records_registerTexture (name : String) (dimension : Dimension) :
    (registerTexture name dimension : Action Custom Host Nat).Records
      fun _ => [.register name dimension] := by
  intro machine ledger represents
  obtain ⟨next, applied, accepted, refused⟩ := represents.register name dimension
  refine ⟨next, by simpa [Ledger.replay] using applied, ?_⟩
  unfold registerTexture
  cases registered : machine.builder.registerTexture name dimension with
  | ok result => exact accepted result.1 result.2 registered
  | error clash => exact refused clash registered

/-- An attempt makes the steps of its action, even if the action ends early. -/
theorem Records.attempt {steps : Machine Custom Host → List TableStep}
    {action : Action Custom Host α} (records : action.Records steps) :
    action.attempt.Records steps := by
  intro machine ledger represents
  rw [attempt_machine]
  exact records machine ledger represents

/-- A ledger of the machine in which the root of a build ends becomes one of the machine in which
the build ends. -/
theorem represents_build {generateNode : Node Custom → ValueType → Action Custom Host TypedTerm}
    {root : Node Custom} {output : ValueType} {machine last : Machine Custom Host}
    {outcome : Outcome TypedTerm} {ledger : Ledger}
    (ends : generateNode root output (machine.compiling root output) = (outcome, last))
    (represents : ledger.Represents last.builder) :
    ∃ next, ledger.replay outcome.closing = some next ∧
      next.Represents (build generateNode root output machine).2.builder := by
  have root_ends : generateNode root output ((machine.update machine.builder.reset).note
      (.compiling root.name output)) = (outcome, last) := ends
  rcases outcome with expression | ⟨error | message⟩ | _ <;> simp only [build, root_ends]
  · exact ⟨ledger, rfl, represents.of_same rfl rfl⟩
  · exact ⟨Ledger.empty, rfl, .reset last.builder⟩
  · exact ⟨ledger, rfl, represents⟩
  · exact ⟨ledger, rfl, represents⟩

/-- A build resets the tables, makes the steps of its root and resets them again if it fails. -/
theorem records_build {generateNode : Node Custom → ValueType → Action Custom Host TypedTerm}
    {nodeSteps : Node Custom → ValueType → Machine Custom Host → List TableStep}
    (records : ∀ node output, (generateNode node output).Records (nodeSteps node output))
    (root : Node Custom) (output : ValueType) :
    (build generateNode root output).Records (buildSteps generateNode nodeSteps root output) := by
  intro machine ledger _
  let start := machine.compiling root output
  have emptied : Ledger.empty.Represents start.builder := .reset machine.builder
  obtain ⟨middle, replayed, after⟩ := records root output start Ledger.empty emptied
  have ends : generateNode root output start =
      ((generateNode root output start).1, (generateNode root output start).2) := rfl
  obtain ⟨next, closed, represents⟩ := represents_build ends after
  refine ⟨next, ?_, represents⟩
  calc ledger.replay (buildSteps generateNode nodeSteps root output machine)
      = Ledger.empty.replay (nodeSteps root output start ++
          (generateNode root output start).1.closing) := rfl
    _ = middle.replay (generateNode root output start).1.closing := by
        rw [Ledger.replay_append, replayed, Option.bind_some]
    _ = some next := closed

end Action

namespace Program

variable {generateNode : Node Custom → ValueType → Action Custom Host TypedTerm}
  {nodeSteps : Node Custom → ValueType → Machine Custom Host → List TableStep}

/-- By induction on the program; each call makes the steps of one action. -/
theorem records_run
    (records : ∀ node output, (generateNode node output).Records (nodeSteps node output))
    (program : Program Custom Host α) :
    (program.run generateNode).Records (program.tableSteps generateNode nodeSteps) := by
  induction program with
  | done | fail | panic => exact Action.records_of_same (fun _ => rfl) fun _ => rfl
  | inspect look next ih =>
      exact (Action.records_of_same (fun _ => rfl) fun _ => rfl).bind ih
  | note event next ih =>
      exact (Action.records_of_same (fun _ => rfl) fun _ => rfl).bind fun _ => ih
  | push frame next ih =>
      exact (Action.records_of_same (fun _ => rfl) fun _ => rfl).bind fun _ => ih
  | pop next ih => exact Action.records_pop.bind ih
  | within frame body next inner ih => exact (inner.within frame).bind ih
  | declareLocal owner type initializer next ih =>
      exact (Action.records_declareLocal owner type initializer).bind ih
  | registerTexture name dimension next ih =>
      exact (Action.records_registerTexture name dimension).bind ih
  | generate node output next ih => exact (records node output).bind ih
  | build root output next ih => exact (Action.records_build records root output).bind ih
  | attempt body next inner ih => exact inner.attempt.bind ih

/-- The steps of a program are those of its first action and then those of what follows. -/
theorem Begins.steps
    (records : ∀ node output, (generateNode node output).Records (nodeSteps node output))
    {program : Program Custom Host α} {action : Action Custom Host β}
    {next : β → Program Custom Host α} (begins : Begins generateNode program action next) :
    ∃ first, action.Records first ∧ program.tableSteps generateNode nodeSteps =
      action.stepsThen first fun answer => (next answer).tableSteps generateNode nodeSteps := by
  cases begins with
  | inspect | note | push => exact ⟨_, Action.records_of_same (fun _ => rfl) fun _ => rfl, rfl⟩
  | pop => exact ⟨_, Action.records_pop, rfl⟩
  | within frame body => exact ⟨_, (records_run records body).within frame, rfl⟩
  | declareLocal owner type initializer =>
      exact ⟨_, Action.records_declareLocal owner type initializer, rfl⟩
  | registerTexture name dimension =>
      exact ⟨_, Action.records_registerTexture name dimension, rfl⟩
  | generate node output => exact ⟨_, records node output, rfl⟩
  | build root output => exact ⟨_, Action.records_build records root output, rfl⟩
  | attempt body => exact ⟨_, (records_run records body).attempt, rfl⟩

/-- By induction on the way to the rest of the program, whose steps are the next ones. -/
theorem Reaches.reached
    (records : ∀ node output, (generateNode node output).Records (nodeSteps node output))
    {program : Program Custom Host α} {rest : Program Custom Host β}
    {machine moment : Machine Custom Host} (reaches : Reaches generateNode program machine rest moment)
    {ledger : Ledger} (represents : ledger.Represents machine.builder) :
    ∃ early later,
      early ++ rest.tableSteps generateNode nodeSteps moment <+:
        program.tableSteps generateNode nodeSteps machine ∧
      ledger.replay early = some later ∧ later.Represents moment.builder := by
  induction reaches generalizing ledger with
  | start program machine => exact ⟨[], ledger, List.prefix_rfl, rfl, represents⟩
  | next begins ends _ ih =>
      rename_i machine _ _ _
      obtain ⟨first, recorded, steps⟩ := begins.steps records
      obtain ⟨between, replayed, after⟩ := recorded machine ledger represents
      rw [ends] at after
      obtain ⟨early, later, inside, continued, reached⟩ := ih after
      refine ⟨first machine ++ early, later, ?_, ?_, reached⟩
      · rw [steps, Action.stepsThen, ends, List.append_assoc]
        exact (List.prefix_append_right_inj _).mpr inside
      · rw [Ledger.replay_append, replayed]
        exact continued
  | scope _ ih =>
      obtain ⟨early, later, inside, replayed, reached⟩ := ih (represents.of_same rfl rfl)
      exact ⟨early, later, inside.trans (List.prefix_append _ _), replayed, reached⟩
  | attempt _ ih =>
      obtain ⟨early, later, inside, replayed, reached⟩ := ih represents
      exact ⟨early, later, inside.trans (List.prefix_append _ _), replayed, reached⟩

end Program

/-- By induction on the fuel; the conversion of a result makes no steps. -/
theorem generation_records (custom : Custom → NodeId → ValueType → Program Custom Host TypedTerm)
    (fuel : Nat) (node : Node Custom) (output : ValueType) :
    (generate custom fuel node output).Records (generationSteps custom fuel node output) := by
  induction fuel generalizing node output with
  | zero => exact Action.records_of_same (fun _ => rfl) fun _ => rfl
  | succ fuel ih =>
      intro machine ledger represents
      rw [generate_succ_machine]
      exact (node.program custom output).records_run ih machine ledger represents

/-- A ledger of the machine in which a run starts goes through the first steps of the run and is then
one of the machine that the run passes through. By induction on what is passed; the steps of a node
stand in the place of its generation. -/
theorem Program.Passes.replayed
    {custom : Custom → NodeId → ValueType → Program Custom Host TypedTerm} {fuel : Nat}
    {program : Program Custom Host α} {machine moment : Machine Custom Host}
    (passes : Passes custom fuel program machine moment) {ledger : Ledger}
    (represents : ledger.Represents machine.builder) :
    ∃ early later, early <+: program.history custom fuel machine ∧
      ledger.replay early = some later ∧ later.Represents moment.builder := by
  induction passes generalizing ledger with
  | started reached =>
      obtain ⟨early, later, inside, replayed, after⟩ :=
        reached.reached (generation_records custom _) represents
      exact ⟨early, later, (List.prefix_append _ _).trans inside, replayed, after⟩
  | @ended _ _ fuel program rest machine moment reached =>
      obtain ⟨early, later, inside, replayed, after⟩ :=
        reached.reached (generation_records custom fuel) represents
      obtain ⟨last, continued, ends⟩ :=
        rest.records_run (generation_records custom fuel) moment later after
      refine ⟨_, last, inside, ?_, ends⟩
      rw [Ledger.replay_append, replayed]
      exact continued
  | @generated _ _ fuel program node output next machine middle moment reached _ ih =>
      obtain ⟨early, later, inside, replayed, after⟩ :=
        reached.reached (generation_records custom (fuel + 1)) represents
      obtain ⟨first, last, generated, continued, ends⟩ := ih after
      have steps : first <+:
          (Program.generate node output next).tableSteps (ShadeTree.generate custom (fuel + 1))
            (generationSteps custom (fuel + 1)) middle :=
        generated.trans (List.prefix_append _ _)
      refine ⟨early ++ first, last,
        ((List.prefix_append_right_inj early).mpr steps).trans inside, ?_, ends⟩
      rw [Ledger.replay_append, replayed]
      exact continued
  | @built _ _ fuel program root output next machine middle moment reached _ ih =>
      obtain ⟨early, later, inside, replayed, after⟩ :=
        reached.reached (generation_records custom (fuel + 1)) represents
      obtain ⟨first, last, generated, continued, ends⟩ := ih (Ledger.Represents.reset middle.builder)
      have steps : .reset :: first <+:
          (Program.build root output next).tableSteps (ShadeTree.generate custom (fuel + 1))
            (generationSteps custom (fuel + 1)) middle :=
        (List.prefix_cons_inj _).mpr
          ((generated.trans (List.prefix_append _ _)).trans (List.prefix_append _ _))
      refine ⟨early ++ .reset :: first, last,
        ((List.prefix_append_right_inj early).mpr steps).trans inside, ?_, ends⟩
      rw [Ledger.replay_append, replayed]
      exact continued

/-! ### Tables throughout a run -/

end ShadeTree
