import ShadeTree.Proofs.Program.Invariant
import ShadeTree.Proofs.Scope.Balance

/-!
What a failed build leaves behind.

A build forgets its declarations when it fails. It installs no scope around its root, so it is the
root that decides over the frames above the floor: a context gives them back, and so do the nodes of
users that take back every frame of theirs before a call that can fail.
-/

namespace ShadeTree

variable {Custom Host α β : Type}

namespace Program

/-- A tidy program pops no other frames than its own, and has taken all of them back wherever it can
end. The bodies of scopes are free, since their scopes clean up after them. -/
def Tidy {α : Type} : Program Custom Host α → (own : Nat) → Prop
  | done _, own | fail _, own | panic _, own => own = 0
  | inspect _ next, own => ∀ answer, (next answer).Tidy own
  | note _ next, own => next.Tidy own
  | push _ next, own => next.Tidy (own + 1)
  | pop next, own => 0 < own ∧ ∀ answer, (next answer).Tidy (own - 1)
  | declareLocal _ _ _ next, own => ∀ answer, (next answer).Tidy own
  | within _ _ next, own => own = 0 ∧ ∀ answer, (next answer).Tidy 0
  | registerTexture _ _ next, own => own = 0 ∧ ∀ answer, (next answer).Tidy 0
  | generate _ _ next, own => own = 0 ∧ ∀ answer, (next answer).Tidy 0
  | build _ _ next, own => own = 0 ∧ ∀ answer, (next answer).Tidy 0
  | attempt body next, own => body.Tidy 0 ∧ ∀ answer, (next answer).Tidy own

end Program

/-- An action that starts with frames of its own on the stack ends without them, unless it does not
end at all. -/
def Action.Clears (own : Nat) (action : Action Custom Host α) : Prop :=
  ∀ (above kept : Frames Custom) (machine : Machine Custom Host), above.length = own →
    machine.builder.frames = above ++ kept → machine.builder.floor ≤ kept.length →
    (action machine).1 ≠ .exhausted →
    (action machine).2.builder.frames = kept ∧
      (action machine).2.builder.floor = machine.builder.floor

namespace Action

/-- An action that restores the stack clears no frames of its own. -/
theorem clears_of_restores {action : Action Custom Host α} (restores : action.Restores) :
    action.Clears 0 := by
  intro above kept machine none frames floor ends
  rw [List.length_eq_zero_iff.mp none, List.nil_append] at frames
  exact ⟨(restores machine).1.trans frames, (restores machine).2⟩

/-- Actions without frames of their own leave none behind one after the other. -/
theorem Clears.bind {action : Action Custom Host α} {next : α → Action Custom Host β}
    (first : action.Clears 0) (rest : ∀ answer, (next answer).Clears 0) :
    (action.bind next).Clears 0 := by
  intro above kept machine none frames floor ends
  have middle := first above kept machine none frames floor
  cases outcome : action machine with
  | mk ending after =>
      rw [outcome] at middle
      cases ending with
      | done answer =>
          obtain ⟨same, low⟩ := middle (by simp)
          rw [bind_of_done next outcome] at ends ⊢
          have last := rest answer [] kept after rfl same (Nat.le_trans (Nat.le_of_eq low) floor) ends
          exact ⟨last.1, last.2.trans low⟩
      | aborted cause =>
          have stops : action.bind next machine = (.aborted cause, after) := by
            simp only [Action.bind, outcome]
          rw [stops]
          exact middle (by simp)
      | exhausted => simp [Action.bind, outcome] at ends

/-- An action that is done leaves it to the rest to clear the stack. -/
theorem Clears.of_done {action : Action Custom Host α} {next : α → Action Custom Host β}
    {own left : Nat}
    (steps : ∀ (above kept : Frames Custom) (machine : Machine Custom Host), above.length = own →
      machine.builder.frames = above ++ kept → machine.builder.floor ≤ kept.length →
      (action machine).1 ≠ .exhausted →
      ∃ answer middle rest, action machine = (.done answer, middle) ∧ rest.length = left ∧
        middle.builder.frames = rest ++ kept ∧ middle.builder.floor = machine.builder.floor)
    (rest : ∀ answer, (next answer).Clears left) : (action.bind next).Clears own := by
  intro above kept machine count frames floor ends
  have going : (action machine).1 ≠ .exhausted := by
    intro stuck
    apply ends
    unfold Action.bind
    rcases outcome : action machine with ⟨ending, after⟩
    rw [outcome] at stuck
    cases stuck
    rfl
  obtain ⟨answer, middle, inner, outcome, size, same, low⟩ := steps above kept machine count frames floor going
  rw [bind_of_done next outcome] at ends ⊢
  have last := rest answer inner kept middle size same (Nat.le_trans (Nat.le_of_eq low) floor) ends
  exact ⟨last.1, last.2.trans low⟩

/-- A build changes the declarations only, besides what its root does. -/
theorem clears_build {generateNode : Node Custom → ValueType → Action Custom Host TypedTerm}
    (clears : ∀ node output, (generateNode node output).Clears 0) (root : Node Custom)
    (output : ValueType) : (build generateNode root output).Clears 0 := by
  intro above kept machine none frames floor ends
  have generated := clears root output above kept (machine.compiling root output) none frames floor
  have going : (generateNode root output (machine.compiling root output)).1 ≠ .exhausted := by
    intro stuck
    apply ends
    unfold build Machine.compiling at *
    rcases outcome : generateNode root output _ with ⟨ending, after⟩
    rw [outcome] at stuck
    cases stuck
    simp only [outcome]
  obtain ⟨same, low⟩ := generated going
  rcases build_builder generateNode root output machine with left | emptied
  · rw [left]
    exact ⟨same, low⟩
  · rw [emptied]
    exact ⟨same, low⟩

end Action

namespace Program

variable {generateNode : Node Custom → ValueType → Action Custom Host TypedTerm}

/-- By induction on the program, with its own frames on the stack. Scopes clean up by the frames that
the floor guards, and not because their bodies are tidy. -/
theorem Tidy.clears (guards : ∀ node output, (generateNode node output).Guards)
    (clears : ∀ node output, (generateNode node output).Clears 0) {program : Program Custom Host α}
    {own : Nat} (tidy : program.Tidy own) : (program.run generateNode).Clears own := by
  induction program generalizing own with
  | done | fail | panic =>
      obtain rfl : own = 0 := tidy
      exact Action.clears_of_restores fun _ => ⟨rfl, rfl⟩
  | inspect look next ih =>
      refine Action.Clears.of_done (fun above kept machine count frames floor _ => ?_)
        fun answer => ih answer (tidy answer)
      exact ⟨_, _, above, rfl, count, frames, rfl⟩
  | note event next ih =>
      refine Action.Clears.of_done (fun above kept machine count frames floor _ => ?_)
        fun _ => ih tidy
      exact ⟨_, _, above, rfl, count, frames, rfl⟩
  | push frame next ih =>
      refine Action.Clears.of_done (fun above kept machine count frames floor _ => ?_)
        fun _ => ih tidy
      refine ⟨_, _, frame :: above, rfl, by simp [count], ?_, rfl⟩
      exact congrArg (frame :: ·) frames
  | pop next ih =>
      refine Action.Clears.of_done (fun above kept machine count frames floor _ => ?_)
        fun answer => ih answer (tidy.2 answer)
      obtain ⟨some, _⟩ := tidy
      cases above with
      | nil => exact absurd count (Nat.ne_of_lt some)
      | cons frame rest =>
          -- A frame of its own lies above the floor, so popping it is not refused.
          have high : ¬machine.builder.depth ≤ machine.builder.floor := by
            simp only [Builder.depth, frames, List.cons_append, List.length_cons, List.length_append]
            omega
          have popped : machine.builder.pop? =
              Option.some (frame, { machine.builder with frames := rest ++ kept }) := by
            simp only [Builder.pop?, if_neg high, frames, List.cons_append]
          have left : rest.length = own - 1 := by
            rw [← count, List.length_cons, Nat.add_sub_cancel]
          refine ⟨Option.some frame, (machine.note (.popped (rest ++ kept).length)).update
            { machine.builder with frames := rest ++ kept }, rest, ?_, left, rfl, rfl⟩
          simp only [Action.pop, popped, Builder.depth]
  | declareLocal owner type initializer next ih =>
      refine Action.Clears.of_done (fun above kept machine count frames floor _ => ?_)
        fun answer => ih answer (tidy answer)
      have restored := Action.restores_declareLocal owner type initializer machine
      exact ⟨_, _, above, rfl, count, restored.1.trans frames, restored.2⟩
  | within frame body next _ ih =>
      obtain ⟨rfl, follows⟩ := tidy
      have restores := Action.within_restores (guards_run guards body) frame
      exact (Action.clears_of_restores restores).bind fun answer => ih answer (follows answer)
  | registerTexture name dimension next ih =>
      obtain ⟨rfl, follows⟩ := tidy
      have restores : (Action.registerTexture name dimension : Action Custom Host Nat).Restores :=
        Action.restores_registerTexture name dimension
      exact (Action.clears_of_restores restores).bind fun answer => ih answer (follows answer)
  | generate node output next ih =>
      obtain ⟨rfl, follows⟩ := tidy
      exact (clears node output).bind fun answer => ih answer (follows answer)
  | build root output next ih =>
      obtain ⟨rfl, follows⟩ := tidy
      exact (Action.clears_build clears root output).bind fun answer => ih answer (follows answer)
  | attempt body next inner ih =>
      refine Action.Clears.of_done (fun above kept machine count frames floor going => ?_)
        fun answer => ih answer (tidy.2 answer)
      have within := inner tidy.1 [] (above ++ kept) machine rfl frames (by simp; omega)
      cases outcome : body.run generateNode machine with
      | mk ending after =>
          rw [outcome] at within
          simp only [Action.attempt, outcome] at going ⊢
          cases ending with
          | done answer =>
              obtain ⟨same, low⟩ := within (by simp)
              exact ⟨_, _, above, rfl, count, same, low⟩
          | aborted cause =>
              obtain ⟨same, low⟩ := within (by simp)
              exact ⟨_, _, above, rfl, count, same, low⟩
          | exhausted => exact absurd rfl going

/-- A flat program has no frames of its own. -/
theorem Flat.tidy {program : Program Custom Host α} (flat : program.Flat) : program.Tidy 0 := by
  induction program with
  | done | fail | panic => rfl
  | inspect look next ih => exact fun answer => ih answer (flat answer)
  | note event next ih => exact ih flat
  | declareLocal owner type initializer next ih => exact fun answer => ih answer (flat answer)
  | registerTexture name dimension next ih => exact ⟨rfl, fun answer => ih answer (flat answer)⟩
  | generate node output next ih => exact ⟨rfl, fun answer => ih answer (flat answer)⟩
  | push | pop | within | build | attempt => exact flat.elim

end Program

/-- Built-in nodes are tidy. -/
theorem Node.program_tidy {custom : Custom → NodeId → ValueType → Program Custom Host TypedTerm}
    (tidy : ∀ content id output, (custom content id output).Tidy 0) (output : ValueType)
    (node : Node Custom) : (node.program custom output).Tidy 0 := by
  cases node with
  | expression id snippet type => rfl
  | float id value isConst => exact (floatProgram_flat id value isConst).tidy
  | normal id space => exact fun _ => rfl
  | context id type overrides child => exact ⟨rfl, fun _ => rfl⟩
  | reader id key fallback => exact (readerProgram_flat key fallback output).tidy
  | sample id texture => exact (sampleProgram_flat texture).tidy
  | binary id operation left right =>
      have flat : (binaryProgram operation left right : Program Custom Host TypedTerm).Flat :=
        Program.Flat.bind (operandsProgram_flat left right) fun _ => trivial
      exact flat.tidy
  | mix id left right factor =>
      refine (Program.Flat.bind (operandsProgram_flat left right) fun _ => ?_).tidy
      exact Program.Flat.bind (fun _ => trivial) fun _ => trivial
  | custom id label type content => exact tidy content id output

/-- Tidy nodes of users give the stack back, by induction on the fuel. -/
theorem generate_clears {custom : Custom → NodeId → ValueType → Program Custom Host TypedTerm}
    (tidy : ∀ content id output, (custom content id output).Tidy 0) (fuel : Nat)
    (node : Node Custom) (output : ValueType) : (generate custom fuel node output).Clears 0 := by
  induction fuel generalizing node output with
  | zero => exact fun _ _ _ _ _ _ ends => absurd rfl ends
  | succ fuel ih =>
      have cleared := (Node.program_tidy tidy output node).clears (generate_guards custom fuel) ih
      refine cleared.bind fun expression => Action.clears_of_restores fun machine => ?_
      rw [Action.finish_machine]
      exact ⟨rfl, rfl⟩

/-! ### A failed build -/

namespace Builder

/-- The frames above the floor, which whoever holds the builder can pop. -/
def unguarded (builder : Builder Custom) : Frames Custom :=
  builder.frames.take (builder.depth - builder.floor)

/-- The frames up to the floor. -/
def guarded (builder : Builder Custom) : Frames Custom :=
  builder.frames.drop (builder.depth - builder.floor)

/-- The frames above the floor and the frames below it are all frames. -/
theorem unguarded_append_guarded (builder : Builder Custom) :
    builder.unguarded ++ builder.guarded = builder.frames :=
  List.take_append_drop _ _

/-- The frames below the floor are guarded by it. -/
theorem guarded_guarded (builder : Builder Custom) : builder.Guarded builder.guarded where
  bottom := List.drop_suffix _ _
  below := by
    rw [guarded, List.length_drop, depth]
    omega

/-- Two builders of one depth and floor, of which one still has the guarded frames of the other. -/
theorem frames_eq_iff {before after : Builder Custom} (floor : after.floor = before.floor)
    (bottom : before.guarded <:+ after.frames) :
    after.frames = before.frames ↔
      after.depth = before.depth ∧ after.unguarded = before.unguarded := by
  constructor
  · intro same
    simp only [unguarded, depth, same, floor, and_self]
  · rintro ⟨same, upper⟩
    obtain ⟨above, split⟩ := bottom
    have size : above.length = after.depth - after.floor := by
      have total := congrArg List.length split
      rw [List.length_append, guarded, List.length_drop] at total
      unfold depth at *
      omega
    have taken : after.unguarded = above := by
      rw [unguarded, ← size, ← split, List.take_left]
    rw [← split, ← taken, upper, unguarded_append_guarded]

end Builder

/-- A failed build leaves no declarations. It leaves the frames that it found exactly if it leaves as
many of them and has not replaced one above the floor; in particular it does so if its root is a
context, and if all nodes of users are tidy. -/
theorem failed_build_restores_iff
    (custom : Custom → NodeId → ValueType → Program Custom Host TypedTerm) (fuel : Nat)
    (root : Node Custom) (output : ValueType) (start last : Machine Custom Host)
    (error : GenerationError)
    (fails : Action.build (generate custom fuel) root output start = (.aborted (.failed error), last)) :
    (last.builder.locals = [] ∧ last.builder.textures = []) ∧
      (last.builder.frames = start.builder.frames ↔
        last.builder.depth = start.builder.depth ∧
          last.builder.unguarded = start.builder.unguarded) ∧
      (root.isContext = true → last.builder.frames = start.builder.frames) ∧
      ((∀ content id output, (custom content id output).Tidy 0) →
        start.builder.floor ≤ start.builder.depth → last.builder.frames = start.builder.frames) := by
  have left : ∃ machine, generate custom fuel root output (start.compiling root output) =
      (.aborted (.failed error), machine) ∧ last.builder = machine.builder.reset := by
    unfold Action.build at fails
    dsimp only at fails
    split at fails
    · cases fails
    · rename_i ran
      cases fails
      exact ⟨_, ran, rfl⟩
    · cases fails
    · cases fails
  obtain ⟨machine, ran, emptied⟩ := left
  have same : last.builder.frames =
      (generate custom fuel root output (start.compiling root output)).2.builder.frames := by
    rw [emptied, ran]
    rfl
  have floor : last.builder.floor = start.builder.floor := by
    have settings := generate_leads Builder.settings_lasting custom fuel root output
      (start.compiling root output)
    rw [ran] at settings
    rw [emptied]
    exact settings.2
  have bottom : start.builder.guarded <:+ last.builder.frames := by
    rw [same]
    have guarded := start.builder.guarded_guarded.reset
    exact (generate_guards custom fuel root output _ (start.compiling root output) guarded).bottom
  refine ⟨emptied ▸ ⟨rfl, rfl⟩, Builder.frames_eq_iff floor bottom, fun context => ?_, fun tidy low => ?_⟩
  · cases root with
    | context id type overrides child =>
        exact same.trans (context_restores custom fuel id type overrides child output _).1
    | expression | float | normal | reader | sample | binary | mix | custom => cases context
  · have cleared := generate_clears tidy fuel root output [] start.builder.frames
      (start.compiling root output) rfl rfl low
    rw [same]
    exact (cleared (by rw [ran]; simp)).1

/-- A builder with one frame, which no scope guards. -/
def framedMachine : Machine Unit Unit :=
  ⟨(Builder.ofConfig .default).push [("k", .literal ⟨"a", .f32, false⟩)], (), []⟩

/-- A node of a user that pushes a frame, catches the failure of what it does under it, and fails
itself once the frame is gone. -/
def retreatProgram : Program Unit Unit TypedTerm :=
  .push [("k", .literal ⟨"b", .f32, false⟩)]
    (.attempt (.fail (.custom "inner") : Program Unit Unit TypedTerm) fun _ =>
      .pop fun _ => .fail (.custom "stop"))

theorem retreat_leaves_no_trace :
    ∃ last, Action.build (generate (fun _ _ _ => retreatProgram) 1) (.custom 0 "Probe" .f32 ()) .f32
        framedMachine = (.aborted (.failed (.custom "stop")), last) ∧
      retreatProgram.Tidy 0 ∧ framedMachine.builder.floor ≤ framedMachine.builder.depth ∧
      last.builder.locals = [] ∧ last.builder.frames = framedMachine.builder.frames := by
  have tidy : retreatProgram.Tidy 0 := ⟨rfl, fun _ => ⟨Nat.one_pos, fun _ => rfl⟩⟩
  have low : framedMachine.builder.floor ≤ framedMachine.builder.depth := Nat.zero_le _
  refine ⟨_, rfl, tidy, low, ?_⟩
  obtain ⟨empty, _, _, restores⟩ := failed_build_restores_iff (fun _ _ _ => retreatProgram) 1
    (.custom 0 "Probe" .f32 ()) .f32 framedMachine _ _ rfl
  exact ⟨empty.1, restores (fun _ _ _ => tidy) low⟩

/-- A node of a user that puts another frame in the place of the one that it finds, and fails. -/
def swapProgram : Program Unit Unit TypedTerm :=
  .pop fun _ => .push [("k", .literal ⟨"b", .f32, false⟩)] (.fail (.custom "stop"))

/-- The stack has its former depth and another frame in it. -/
theorem swap_leaves_trace :
    ∃ last, Action.build (generate (fun _ _ _ => swapProgram) 1) (.custom 0 "Probe" .f32 ()) .f32
        framedMachine = (.aborted (.failed (.custom "stop")), last) ∧
      last.builder.depth = framedMachine.builder.depth ∧
      last.builder.frames ≠ framedMachine.builder.frames := by
  refine ⟨_, rfl, rfl, fun same => ?_⟩
  have texts := congrArg (fun frames => (frames.find? "k").map Value.text) same
  exact absurd texts (by decide)

end ShadeTree
