import ShadeTree.Proofs.Program.Moments

/-!
A scope gives back the stack that it was given.

Leaving a scope only cuts the stack to its former depth. The frames below that depth are the old ones
because the floor keeps every program within the scope from removing them.
-/

namespace ShadeTree

variable {Custom Host α β : Type}

/-- The given frames lie at the bottom of the stack, and the floor is above them. -/
structure Builder.Guarded (kept : Frames Custom) (builder : Builder Custom) : Prop where
  bottom : kept <:+ builder.frames
  below : kept.length ≤ builder.floor

namespace Builder.Guarded

variable {kept : Frames Custom} {builder : Builder Custom}

/-- A frame that is pushed lies above the guarded ones. -/
theorem push (guarded : builder.Guarded kept) (frame : Frame Custom) :
    (builder.push frame).Guarded kept :=
  ⟨guarded.bottom.trans (List.suffix_cons frame builder.frames), guarded.below⟩

/-- A frame that is popped lies above the floor, so it is none of the guarded ones. -/
theorem pop (guarded : builder.Guarded kept) {frame : Frame Custom} {rest : Builder Custom}
    (popped : builder.pop? = some (frame, rest)) : rest.Guarded kept := by
  unfold pop? at popped
  split at popped
  · cases popped
  · rename_i above
    have deep : builder.floor < builder.frames.length := Nat.lt_of_not_le above
    split at popped
    · cases popped
    · rename_i top outer frames
      cases popped
      have low := guarded.below
      have bottom := guarded.bottom
      rw [frames] at bottom deep
      rcases List.suffix_cons_iff.mp bottom with whole | outside
      · rw [whole] at low
        omega
      · exact ⟨outside, low⟩

/-- Declaring a local leaves the guarded frames alone. -/
theorem declareLocal (guarded : builder.Guarded kept) (owner : NodeId) (type : ValueType)
    (initializer : String) : (builder.declareLocal owner type initializer).2.Guarded kept := by
  unfold Builder.declareLocal
  dsimp only
  split <;> exact ⟨guarded.bottom, guarded.below⟩

/-- Registering a texture leaves the guarded frames alone. -/
theorem registerTexture (guarded : builder.Guarded kept) {name : String} {dimension : Dimension}
    {index : Nat} {next : Builder Custom}
    (registered : builder.registerTexture name dimension = .ok (index, next)) :
    next.Guarded kept := by
  unfold Builder.registerTexture at registered
  dsimp only at registered
  split at registered
  · split at registered
    · cases registered
      exact guarded
    · cases registered
  · cases registered
    exact ⟨guarded.bottom, guarded.below⟩

/-- Forgetting the declarations leaves the guarded frames alone. -/
theorem reset (guarded : builder.Guarded kept) : builder.reset.Guarded kept :=
  ⟨guarded.bottom, guarded.below⟩

/-- A scope guards all frames that it finds, and its own. -/
theorem own (builder : Builder Custom) (frame : Frame Custom) :
    (builder.enter frame).Guarded (frame :: builder.frames) :=
  ⟨List.suffix_rfl, Nat.le_refl _⟩

/-- The floor inside a scope is above the frames that it guarded before. -/
theorem enter (guarded : builder.Guarded kept) (frame : Frame Custom) :
    (builder.enter frame).Guarded kept :=
  ⟨(guarded.push frame).bottom, Nat.le_trans guarded.bottom.length_le (Nat.le_succ _)⟩

end Builder.Guarded

/-- Cutting a stack to the depth of what lies at its bottom leaves just that. -/
theorem Frames.truncate_of_suffix {kept frames : Frames Custom} (bottom : kept <:+ frames) :
    frames.truncate kept.length = kept := by
  obtain ⟨above, rfl⟩ := bottom
  simp [truncate]

/-- A builder that still has the frames from outside a scope gets back to them on leaving it. -/
theorem Builder.leave_frames {outside after : Builder Custom} {frame : Frame Custom}
    (bottom : frame :: outside.frames <:+ after.frames) :
    (after.leave outside).frames = outside.frames :=
  Frames.truncate_of_suffix ((List.suffix_cons frame outside.frames).trans bottom)

/-- Whatever frames the floor guards, an action keeps them guarded. -/
def Action.Guards (action : Action Custom Host α) : Prop :=
  ∀ (kept : Frames Custom) (machine : Machine Custom Host),
    machine.builder.Guarded kept → (action machine).2.builder.Guarded kept

namespace Action

theorem guards_done (value : α) : (done value : Action Custom Host α).Guards :=
  fun _ _ guarded => guarded

theorem guards_abort (cause : Abort) : (abort cause : Action Custom Host α).Guards :=
  fun _ _ guarded => guarded

theorem guards_exhausted : (exhausted : Action Custom Host α).Guards :=
  fun _ _ guarded => guarded

/-- Two actions that keep the guarded frames do so one after the other. -/
theorem Guards.bind {action : Action Custom Host α} {next : α → Action Custom Host β}
    (first : action.Guards) (rest : ∀ answer, (next answer).Guards) : (action.bind next).Guards := by
  intro kept machine guarded
  have middle := first kept machine guarded
  rcases bind_cases action next machine with ⟨answer, _, continues⟩ | stops
  · rw [continues]
    exact rest answer kept _ middle
  · rw [stops]
    exact middle

/-- An attempt keeps the guarded frames when its body does. -/
theorem Guards.attempt {action : Action Custom Host α} (guards : action.Guards) :
    action.attempt.Guards := by
  intro kept machine guarded
  rw [attempt_machine]
  exact guards kept machine guarded

theorem guards_inspect (look : Builder Custom → Host → α × Host) : (inspect look).Guards :=
  fun _ _ guarded => guarded

theorem guards_note (event : Event) : (note event : Action Custom Host Unit).Guards :=
  fun _ _ guarded => guarded

theorem guards_push (frame : Frame Custom) : (push frame : Action Custom Host Unit).Guards :=
  fun _ _ guarded => guarded.push frame

/-- A pop keeps the guarded frames, whether or not it finds one above the floor. -/
theorem guards_pop : (pop : Action Custom Host (Option (Frame Custom))).Guards := by
  intro kept machine guarded
  unfold pop
  split
  · exact guarded
  · rename_i popped
    exact guarded.pop popped

theorem guards_declareLocal (owner : NodeId) (type : ValueType) (initializer : String) :
    (declareLocal owner type initializer : Action Custom Host String).Guards :=
  fun _ _ guarded => guarded.declareLocal owner type initializer

/-- A registration keeps the guarded frames, whether or not it clashes. -/
theorem guards_registerTexture (name : String) (dimension : Dimension) :
    (registerTexture name dimension : Action Custom Host Nat).Guards := by
  intro kept machine guarded
  unfold registerTexture
  split
  · rename_i registered
    exact guarded.registerTexture registered
  · exact guarded

/-- A build changes the declarations only, besides what its root does. -/
theorem guards_build {generateNode : Node Custom → ValueType → Action Custom Host TypedTerm}
    (guards : ∀ node output, (generateNode node output).Guards) (root : Node Custom)
    (output : ValueType) : (build generateNode root output).Guards := by
  intro kept machine guarded
  have after := guards root output kept (machine.compiling root output) guarded.reset
  rcases build_builder generateNode root output machine with same | emptied
  · rw [same]
    exact after
  · rw [emptied]
    exact after.reset

/-- A scope ends with the frames and the floor that it began with, however its body ends. -/
theorem within_restores {body : Action Custom Host α} (guards : body.Guards) (frame : Frame Custom)
    (outside : Machine Custom Host) :
    (within frame body outside).2.builder.frames = outside.builder.frames ∧
      (within frame body outside).2.builder.floor = outside.builder.floor := by
  have inside := guards _ (outside.enter frame) (Builder.Guarded.own outside.builder frame)
  exact ⟨Builder.leave_frames inside.bottom, rfl⟩

/-- A scope keeps the guarded frames when its body does. -/
theorem guards_within {body : Action Custom Host α} (guards : body.Guards) (frame : Frame Custom) :
    (within frame body).Guards := by
  intro kept machine guarded
  obtain ⟨frames, floor⟩ := within_restores guards frame machine
  exact ⟨frames ▸ guarded.bottom, floor ▸ guarded.below⟩

end Action

namespace Program

variable {generateNode : Node Custom → ValueType → Action Custom Host TypedTerm}

/-- A program guards what the floor guards, because each of its calls does. -/
theorem guards_run (guards : ∀ node output, (generateNode node output).Guards)
    (program : Program Custom Host α) : (program.run generateNode).Guards := by
  induction program with
  | done value => exact Action.guards_done value
  | fail error => exact Action.guards_abort (.failed error)
  | panic message => exact Action.guards_abort (.panicked message)
  | inspect look next ih => exact (Action.guards_inspect look).bind ih
  | note event next ih => exact (Action.guards_note event).bind fun _ => ih
  | push frame next ih => exact (Action.guards_push frame).bind fun _ => ih
  | pop next ih => exact Action.guards_pop.bind ih
  | within frame body next inner ih => exact (Action.guards_within inner frame).bind ih
  | declareLocal owner type initializer next ih =>
      exact (Action.guards_declareLocal owner type initializer).bind ih
  | registerTexture name dimension next ih =>
      exact (Action.guards_registerTexture name dimension).bind ih
  | generate node output next ih => exact (guards node output).bind ih
  | build root output next ih => exact (Action.guards_build guards root output).bind ih
  | attempt body next inner ih => exact inner.attempt.bind ih

/-- The call with which a program begins guards what the floor guards. -/
theorem Begins.guards (guards : ∀ node output, (generateNode node output).Guards)
    {program : Program Custom Host α} {action : Action Custom Host β}
    {next : β → Program Custom Host α} (begins : Begins generateNode program action next) :
    action.Guards := by
  cases begins with
  | inspect look => exact Action.guards_inspect look
  | note event => exact Action.guards_note event
  | push frame => exact Action.guards_push frame
  | pop => exact Action.guards_pop
  | within frame body => exact Action.guards_within (guards_run guards body) frame
  | declareLocal owner type initializer => exact Action.guards_declareLocal owner type initializer
  | registerTexture name dimension => exact Action.guards_registerTexture name dimension
  | generate node output => exact guards node output
  | build root output => exact Action.guards_build guards root output
  | attempt body => exact (guards_run guards body).attempt

/-- Wherever a program comes to, the guarded frames are still there. -/
theorem Reaches.guarded (guards : ∀ node output, (generateNode node output).Guards)
    {program : Program Custom Host α} {rest : Program Custom Host β}
    {machine moment : Machine Custom Host}
    (reached : Reaches generateNode program machine rest moment) {kept : Frames Custom}
    (guarded : machine.builder.Guarded kept) : moment.builder.Guarded kept := by
  induction reached with
  | start program machine => exact guarded
  | next begins ends later ih =>
      have after := begins.guards guards kept _ guarded
      rw [ends] at after
      exact ih after
  | scope inside ih => exact ih (guarded.enter _)
  | attempt inside ih => exact ih guarded

/-- Whatever a run passes through, the guarded frames are still there. -/
theorem Passes.guarded {custom : Custom → NodeId → ValueType → Program Custom Host TypedTerm}
    {fuel : Nat} (guards : ∀ fuel node output, (ShadeTree.generate custom fuel node output).Guards)
    {program : Program Custom Host α} {machine moment : Machine Custom Host}
    (passes : Passes custom fuel program machine moment) {kept : Frames Custom}
    (guarded : machine.builder.Guarded kept) : moment.builder.Guarded kept := by
  induction passes with
  | started reached => exact reached.guarded (guards _) guarded
  | ended reached => exact guards_run (guards _) _ kept _ (reached.guarded (guards _) guarded)
  | generated reached inside ih => exact ih (reached.guarded (guards _) guarded)
  | built reached inside ih => exact ih (reached.guarded (guards _) guarded).reset

end Program

/-- Generating a node guards what the floor guards, whatever the nodes of users do. -/
theorem generate_guards (custom : Custom → NodeId → ValueType → Program Custom Host TypedTerm)
    (fuel : Nat) (node : Node Custom) (output : ValueType) :
    (generate custom fuel node output).Guards := by
  induction fuel generalizing node output with
  | zero => exact Action.guards_exhausted
  | succ fuel ih =>
      intro kept machine guarded
      rw [generate_succ_machine]
      exact Program.guards_run ih (node.program custom output) kept machine guarded

/-- A context restores the stack because its child is generated in a scope. -/
theorem context_restores (custom : Custom → NodeId → ValueType → Program Custom Host TypedTerm)
    (fuel : Nat) (id : NodeId) (type : Option ValueType) (overrides : Frame Custom)
    (child : Node Custom) (output : ValueType) (machine : Machine Custom Host) :
    let after := (generate custom fuel (.context id type overrides child) output machine).2.builder
    after.frames = machine.builder.frames ∧ after.floor = machine.builder.floor := by
  cases fuel with
  | zero => exact ⟨rfl, rfl⟩
  | succ fuel =>
      have guards := Program.guards_run (generate_guards custom fuel)
        (Program.generated child output)
      rw [generate_succ_machine]
      simp only [Node.program, Program.run, Action.bind_done]
      exact Action.within_restores guards overrides machine

/-- A scope gives back the frames and the floor that it found, whether its body finishes, fails or
panics, and at every moment until then its own frame lies unchanged on the frames that it found. A
context restores both whatever its child does. -/
theorem scope_restores_stack (custom : Custom → NodeId → ValueType → Program Custom Host TypedTerm)
    (fuel : Nat) (frame : Frame Custom) (body : Program Custom Host α)
    (outside : Machine Custom Host) :
    let after := (Action.within frame (body.run (generate custom fuel)) outside).2.builder
    (after.frames = outside.builder.frames ∧ after.floor = outside.builder.floor) ∧
      (∀ moment, Program.Passes custom fuel body (outside.enter frame) moment →
        frame :: outside.builder.frames <:+ moment.builder.frames) ∧
      ∀ (id : NodeId) (type : Option ValueType) (child : Node Custom) (output : ValueType),
        let generated := (generate custom fuel (.context id type frame child) output outside).2.builder
        generated.frames = outside.builder.frames ∧ generated.floor = outside.builder.floor := by
  dsimp only
  refine ⟨?_, ?_, ?_⟩
  · exact Action.within_restores (Program.guards_run (generate_guards custom fuel) body) frame outside
  · intro moment passes
    have own := Builder.Guarded.own outside.builder frame
    exact (passes.guarded (generate_guards custom) own).bottom
  · intro id type child output
    exact context_restores custom fuel id type frame child output outside

end ShadeTree
