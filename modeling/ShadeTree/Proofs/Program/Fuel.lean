import ShadeTree.Proofs.Program.Run

/-!
More fuel keeps an answer.

An action approximates another one if the other ends in the same way wherever it ends itself. A
program can only tell two ways of generating nodes apart where one of them is exhausted.
-/

namespace ShadeTree

variable {Custom Host α β : Type}

def Action.Approximates (action other : Action Custom Host α) : Prop :=
  ∀ machine, (action machine).1 ≠ .exhausted → other machine = action machine

namespace Action

/-- Every action approximates itself. -/
theorem Approximates.refl (action : Action Custom Host α) : action.Approximates action :=
  fun _ _ => rfl

/-- An exhausted action approximates every action. -/
theorem approximates_exhausted (other : Action Custom Host α) : exhausted.Approximates other :=
  fun _ ends => absurd rfl ends

/-- Approximation is transitive. -/
theorem Approximates.trans {first second third : Action Custom Host α}
    (left : first.Approximates second) (right : second.Approximates third) :
    first.Approximates third := by
  intro machine ends
  have same := left machine ends
  rw [← same] at ends ⊢
  exact right machine ends

/-- Parts that are approximated make up an action that is. -/
theorem Approximates.bind {action other : Action Custom Host α}
    {next follow : α → Action Custom Host β} (first : action.Approximates other)
    (rest : ∀ answer, (next answer).Approximates (follow answer)) :
    (action.bind next).Approximates (other.bind follow) := by
  intro machine ends
  unfold Action.bind at *
  cases outcome : action machine with
  | mk ending after =>
      have same := first machine
      rw [outcome] at ends same
      cases ending with
      | done answer =>
          rw [same (by simp)]
          exact rest answer after ends
      | aborted cause => rw [same (by simp)]
      | exhausted => exact absurd rfl ends

/-- An attempt approximates the attempt of what its body approximates. -/
theorem Approximates.attempt {action other : Action Custom Host α}
    (first : action.Approximates other) : action.attempt.Approximates other.attempt := by
  intro machine ends
  unfold Action.attempt at *
  cases outcome : action machine with
  | mk ending after =>
      have same := first machine
      rw [outcome] at ends same
      cases ending with
      | done answer => rw [same (by simp)]
      | aborted cause => rw [same (by simp)]
      | exhausted => exact absurd rfl ends

/-- A scope approximates the scope around what its body approximates. -/
theorem Approximates.within {body other : Action Custom Host α} (first : body.Approximates other)
    (frame : Frame Custom) :
    (Action.within frame body).Approximates (Action.within frame other) := by
  intro machine ends
  have same := first _ ends
  unfold Action.within
  dsimp only
  rw [same]

/-- A build approximates the build whose nodes its own approximate. -/
theorem Approximates.build
    {generateNode other : Node Custom → ValueType → Action Custom Host TypedTerm}
    (first : ∀ node output, (generateNode node output).Approximates (other node output))
    (root : Node Custom) (output : ValueType) :
    (Action.build generateNode root output).Approximates (Action.build other root output) := by
  intro machine ends
  have same := first root output ((machine.update machine.builder.reset).note (.compiling root.name output))
  unfold Action.build at *
  dsimp only at *
  cases outcome : generateNode root output
      ((machine.update machine.builder.reset).note (.compiling root.name output)) with
  | mk ending after =>
      rw [outcome] at ends same
      cases ending with
      | done expression => rw [same (by simp)]
      | aborted cause => rw [same (by simp)]
      | exhausted => exact absurd rfl ends

end Action

/-- By induction on the program. -/
theorem Program.run_approximates
    {generateNode other : Node Custom → ValueType → Action Custom Host TypedTerm}
    (first : ∀ node output, (generateNode node output).Approximates (other node output))
    (program : Program Custom Host α) :
    (program.run generateNode).Approximates (program.run other) := by
  induction program with
  | done | fail | panic => exact .refl _
  | inspect look next ih => exact (Action.Approximates.refl _).bind ih
  | note event next ih | push frame next ih => exact (Action.Approximates.refl _).bind fun _ => ih
  | pop next ih | declareLocal owner type initializer next ih
  | registerTexture name dimension next ih => exact (Action.Approximates.refl _).bind ih
  | within frame body next inner ih => exact (inner.within frame).bind ih
  | generate node output next ih => exact (first node output).bind ih
  | build root output next ih => exact (Action.Approximates.build first root output).bind ih
  | attempt body next inner ih => exact inner.attempt.bind ih

/-- One more unit of fuel keeps what is not exhausted, by induction on the fuel. -/
theorem generate_approximates_succ
    (custom : Custom → NodeId → ValueType → Program Custom Host TypedTerm) (fuel : Nat)
    (node : Node Custom) (output : ValueType) :
    (generate custom fuel node output).Approximates (generate custom (fuel + 1) node output) := by
  induction fuel generalizing node output with
  | zero => exact Action.approximates_exhausted _
  | succ fuel ih =>
      exact (Program.run_approximates ih _).bind fun _ => .refl _

/-- More fuel changes nothing but an exhausted end. -/
theorem generate_approximates (custom : Custom → NodeId → ValueType → Program Custom Host TypedTerm)
    {fuel more : Nat} (enough : fuel ≤ more) (node : Node Custom) (output : ValueType) :
    (generate custom fuel node output).Approximates (generate custom more node output) := by
  induction enough with
  | refl => exact .refl _
  | step _ ih => exact ih.trans (generate_approximates_succ custom _ node output)

end ShadeTree
