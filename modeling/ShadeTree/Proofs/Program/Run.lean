import ShadeTree.Generation

/-!
Laws of actions and of running programs.
-/

namespace ShadeTree

variable {Custom Host α β γ : Type}

namespace Action

/-- A sequence is done exactly if both of its parts are. -/
theorem bind_eq_done {action : Action Custom Host α} {next : α → Action Custom Host β}
    {start last : Machine Custom Host} {value : β} :
    action.bind next start = (.done value, last) ↔
      ∃ answer middle, action start = (.done answer, middle) ∧
        next answer middle = (.done value, last) := by
  unfold bind
  rcases action start with ⟨outcome, middle⟩
  cases outcome with
  | done answer =>
      constructor
      · intro ends
        exact ⟨answer, middle, rfl, ends⟩
      · rintro ⟨answer, middle, ends, rest⟩
        cases ends
        exact rest
  | aborted cause | exhausted => simp

/-- A sequence goes on from the machine that its first part leaves. -/
theorem bind_of_done {action : Action Custom Host α} (next : α → Action Custom Host β)
    {start middle : Machine Custom Host} {answer : α} (ends : action start = (.done answer, middle)) :
    action.bind next start = next answer middle := by
  simp only [bind, ends]

/-- Continuing twice is continuing by a continued action. -/
theorem bind_assoc (action : Action Custom Host α) (next : α → Action Custom Host β)
    (rest : β → Action Custom Host γ) :
    (action.bind next).bind rest = action.bind fun answer => (next answer).bind rest := by
  funext start
  unfold bind
  rcases action start with ⟨outcome, middle⟩
  cases outcome <;> rfl

/-- An action that ends early ends the whole sequence with the machine that it leaves. -/
theorem bind_cases (action : Action Custom Host α) (next : α → Action Custom Host β)
    (start : Machine Custom Host) :
    (∃ answer, (action start).1 = .done answer ∧
      (action.bind next start) = next answer (action start).2) ∨
    (action.bind next start).2 = (action start).2 := by
  unfold bind
  rcases action start with ⟨outcome, middle⟩
  cases outcome with
  | done answer => exact .inl ⟨answer, rfl, rfl⟩
  | aborted cause => exact .inr rfl
  | exhausted => exact .inr rfl

/-- An attempt leaves the machine that its action leaves. -/
theorem attempt_machine (action : Action Custom Host α) (machine : Machine Custom Host) :
    (action.attempt machine).2 = (action machine).2 := by
  unfold attempt
  rcases action machine with ⟨outcome, middle⟩
  cases outcome <;> rfl

@[simp] theorem bind_done (action : Action Custom Host α) : action.bind done = action := by
  funext start
  unfold bind
  rcases action start with ⟨outcome, middle⟩
  cases outcome <;> rfl

/-- The conversion of a result leaves the machine as it is. -/
theorem finish_machine (node : NodeName) (output : ValueType) (expression : TypedTerm)
    (machine : Machine Custom Host) : (finish node output expression machine).2 = machine := by
  unfold finish
  cases expression.coerce output <;> rfl

end Action

namespace Program

variable (generateNode : Node Custom → ValueType → Action Custom Host TypedTerm)

@[simp] theorem bind_eq (program : Program Custom Host α) (rest : α → Program Custom Host β) :
    program >>= rest = program.bind rest := rfl

/-- A program runs up to its end before what follows it. -/
theorem run_bind (program : Program Custom Host α) (rest : α → Program Custom Host β) :
    (program.bind rest).run generateNode =
      (program.run generateNode).bind fun answer => (rest answer).run generateNode := by
  induction program with
  | done value | fail error | panic message => rfl
  | note event next ih | push frame next ih => simp only [bind, run, Action.bind_assoc, ih]
  | inspect look next ih | pop next ih | declareLocal owner type initializer next ih
  | registerTexture name dimension next ih | generate node output next ih
  | build root output next ih => simp only [bind, run, Action.bind_assoc, ih]
  | within frame body next _ ih | attempt body next _ ih =>
      simp only [bind, run, Action.bind_assoc, ih]

end Program

/-- Generating a node leaves the machine that its program leaves. -/
theorem generate_succ_machine (custom : Custom → NodeId → ValueType → Program Custom Host TypedTerm)
    (fuel : Nat) (node : Node Custom) (output : ValueType) (machine : Machine Custom Host) :
    (generate custom (fuel + 1) node output machine).2 =
      ((node.program custom output).run (generate custom fuel) machine).2 := by
  unfold generate
  rcases Action.bind_cases ((node.program custom output).run (generate custom fuel))
    (Action.finish node.name output) machine with ⟨expression, _, continues⟩ | stops
  · rw [continues, Action.finish_machine]
  · exact stops

end ShadeTree
