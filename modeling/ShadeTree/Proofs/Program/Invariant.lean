import ShadeTree.Proofs.Program.Moments

/-!
What every program keeps.

A relation between builders that each operation respects also holds between the builder in which a
program starts and the one that it leaves, whatever the program does and however it ends.
-/

namespace ShadeTree

variable {Custom Host α β : Type}

/-- The relation goes from a builder to whatever the operations make of it. -/
structure Builder.Lasting (related : Builder Custom → Builder Custom → Prop) : Prop where
  refl (builder : Builder Custom) : related builder builder
  trans {first second third : Builder Custom} :
    related first second → related second third → related first third
  push (builder : Builder Custom) (frame : Frame Custom) : related builder (builder.push frame)
  pop {builder rest : Builder Custom} {frame : Frame Custom} :
    builder.pop? = some (frame, rest) → related builder rest
  /-- What holds of the body of a scope, from its own frame on, holds of the whole scope. -/
  scope {outside after : Builder Custom} {frame : Frame Custom} :
    related (outside.enter frame) after → related outside (after.leave outside)
  declareLocal (builder : Builder Custom) (owner : NodeId) (type : ValueType) (initializer : String) :
    related builder (builder.declareLocal owner type initializer).2
  registerTexture {builder next : Builder Custom} {name : String} {dimension : Dimension}
      {index : Nat} :
    builder.registerTexture name dimension = .ok (index, next) → related builder next
  reset (builder : Builder Custom) : related builder builder.reset

/-- An action leads from every builder to a related one. -/
def Action.Leads (related : Builder Custom → Builder Custom → Prop) (action : Action Custom Host α) :
    Prop :=
  ∀ machine, related machine.builder (action machine).2.builder

namespace Action

variable {related : Builder Custom → Builder Custom → Prop}

/-- Two actions that lead to related builders do so one after the other. -/
theorem Leads.bind (lasting : Builder.Lasting related) {action : Action Custom Host α}
    {next : α → Action Custom Host β} (first : action.Leads related)
    (rest : ∀ answer, (next answer).Leads related) : (action.bind next).Leads related := by
  intro machine
  rcases bind_cases action next machine with ⟨answer, _, continues⟩ | stops
  · rw [continues]
    exact lasting.trans (first machine) (rest answer _)
  · rw [stops]
    exact first machine

/-- A pop leads to a related builder, whether or not it finds a frame. -/
theorem leads_pop (lasting : Builder.Lasting related) :
    (pop : Action Custom Host (Option (Frame Custom))).Leads related := by
  intro machine
  unfold pop
  split
  · exact lasting.refl _
  · rename_i popped
    exact lasting.pop popped

/-- A registration leads to a related builder, whether or not it clashes. -/
theorem leads_registerTexture (lasting : Builder.Lasting related) (name : String)
    (dimension : Dimension) : (registerTexture name dimension : Action Custom Host Nat).Leads related := by
  intro machine
  unfold registerTexture
  split
  · rename_i registered
    exact lasting.registerTexture registered
  · exact lasting.refl _

/-- A build leads to a related builder when its nodes do, also when it fails. -/
theorem leads_build (lasting : Builder.Lasting related)
    {generateNode : Node Custom → ValueType → Action Custom Host TypedTerm}
    (generates : ∀ node output, (generateNode node output).Leads related) (root : Node Custom)
    (output : ValueType) : (build generateNode root output).Leads related := by
  intro machine
  have generated := generates root output (machine.compiling root output)
  have last := lasting.trans (lasting.reset machine.builder) generated
  rcases build_builder generateNode root output machine with same | emptied
  · exact same ▸ last
  · exact emptied ▸ lasting.trans last (lasting.reset _)

end Action

/-- By induction on the program; each call is one operation, and the nodes that it asks for lead to
related builders by assumption. -/
theorem Program.leads_run {related : Builder Custom → Builder Custom → Prop}
    (lasting : Builder.Lasting related)
    {generateNode : Node Custom → ValueType → Action Custom Host TypedTerm}
    (generates : ∀ node output, (generateNode node output).Leads related)
    (program : Program Custom Host α) : (program.run generateNode).Leads related := by
  induction program with
  | done | fail | panic => exact fun machine => lasting.refl machine.builder
  | inspect look next ih =>
      exact Action.Leads.bind lasting (fun machine => lasting.refl machine.builder) ih
  | note event next ih =>
      exact Action.Leads.bind lasting (fun machine => lasting.refl machine.builder) fun _ => ih
  | push frame next ih =>
      exact Action.Leads.bind lasting (fun machine => lasting.push machine.builder frame) fun _ => ih
  | pop next ih => exact Action.Leads.bind lasting (Action.leads_pop lasting) ih
  | within frame body next inner ih =>
      exact Action.Leads.bind lasting (fun machine => lasting.scope (inner (machine.enter frame))) ih
  | declareLocal owner type initializer next ih =>
      have declares := fun machine : Machine Custom Host =>
        lasting.declareLocal machine.builder owner type initializer
      exact Action.Leads.bind lasting declares ih
  | registerTexture name dimension next ih =>
      exact Action.Leads.bind lasting (Action.leads_registerTexture lasting name dimension) ih
  | generate node output next ih => exact Action.Leads.bind lasting (generates node output) ih
  | build root output next ih =>
      exact Action.Leads.bind lasting (Action.leads_build lasting generates root output) ih
  | attempt body next inner ih =>
      refine Action.Leads.bind lasting (fun machine => ?_) ih
      rw [Action.attempt_machine]
      exact inner machine

/-- Generating a node leads to a related builder, whatever the nodes of users do. -/
theorem generate_leads {related : Builder Custom → Builder Custom → Prop}
    (lasting : Builder.Lasting related)
    (custom : Custom → NodeId → ValueType → Program Custom Host TypedTerm) (fuel : Nat)
    (node : Node Custom) (output : ValueType) : (generate custom fuel node output).Leads related := by
  induction fuel generalizing node output with
  | zero => exact fun machine => lasting.refl machine.builder
  | succ fuel ih =>
      intro machine
      rw [generate_succ_machine]
      exact Program.leads_run lasting ih _ machine

/-- No operation changes the configuration, and a scope puts the floor back. -/
theorem Builder.settings_lasting :
    Lasting fun before after : Builder Custom =>
      after.config = before.config ∧ after.floor = before.floor where
  refl builder := ⟨rfl, rfl⟩
  trans first second := ⟨second.1.trans first.1, second.2.trans first.2⟩
  push builder frame := ⟨rfl, rfl⟩
  pop popped := by
    unfold pop? at popped
    split at popped
    · cases popped
    · split at popped <;> cases popped
      exact ⟨rfl, rfl⟩
  scope inside := ⟨inside.1, rfl⟩
  declareLocal builder owner type initializer := by
    unfold Builder.declareLocal
    dsimp only
    split <;> exact ⟨rfl, rfl⟩
  registerTexture registered := by
    unfold Builder.registerTexture at registered
    dsimp only at registered
    split at registered
    · split at registered <;> cases registered
      exact ⟨rfl, rfl⟩
    · cases registered
      exact ⟨rfl, rfl⟩
  reset builder := ⟨rfl, rfl⟩

end ShadeTree
