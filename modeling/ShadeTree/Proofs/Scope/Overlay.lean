import ShadeTree.Proofs.Generation.Conversion
import ShadeTree.Proofs.Generation.Soundness
import ShadeTree.Proofs.Program.Moments

/-!
Contexts lay their overrides over the frames that are there.

A context does nothing else: its child is generated in a scope, and what the child gives is taken over
as it is. Laying one frame over another gives a frame in which the values of the upper one are found
first.
-/

namespace ShadeTree

variable {Custom Host α : Type}

/-! ### Frames laid over each other -/

namespace KeyMap

/-- An inserted value is found at its key and hides nothing at the others. -/
theorem find_insert (key other : String) (value : α) (map : KeyMap α) :
    find? other (map.insert key value) = if key = other then some value else find? other map := by
  induction map with
  | nil => rfl
  | cons entry rest ih =>
      obtain ⟨first, old⟩ := entry
      rw [insert]
      split
      · rename_i replaced
        subst replaced
        rw [find?, find?]
        split <;> rfl
      · rename_i different
        split
        · rw [find?]
        · rw [find?, find?, ih]
          split
          · rename_i found
            rw [if_neg fun same => different (same.trans found.symm)]
          · rfl

/-- A key that is not listed finds nothing. -/
theorem find_none {key : String} {map : KeyMap α} (missing : key ∉ map.keys) :
    find? key map = none := by
  induction map with
  | nil => rfl
  | cons entry rest ih =>
      obtain ⟨different, later⟩ := not_or.mp fun held => missing (List.mem_cons.mpr held)
      rw [find?, if_neg (fun same => different same.symm), ih later]

end KeyMap

namespace Frames

/-- One key after another takes its value from the frame. -/
theorem find_foldl (frame : Frame Custom) (key : String) (keys : List String)
    (below : Frame Custom) :
    KeyMap.find? key (keys.foldl
      (fun values key =>
        match KeyMap.find? key frame with
        | some value => values.insert key value
        | none => values) below) =
      if key ∈ keys then (KeyMap.find? key frame).or (KeyMap.find? key below)
      else KeyMap.find? key below := by
  induction keys generalizing below with
  | nil => rfl
  | cons first rest ih =>
      rw [List.foldl_cons, ih]
      cases found : KeyMap.find? first frame with
      | none =>
          by_cases same : first = key
          · subst same
            simp [found]
          · simp [Ne.symm same]
      | some value =>
          dsimp only
          rw [KeyMap.find_insert]
          by_cases same : first = key
          · subst same
            simp [found]
          · simp [same, Ne.symm same]

/-- An overlay is looked up first, and what lies below it second. -/
theorem find_overlay (below frame : Frame Custom) (key : String) :
    KeyMap.find? key (overlay below frame) =
      (KeyMap.find? key frame).or (KeyMap.find? key below) := by
  refine (find_foldl frame key (KeyMap.keys frame) below).trans ?_
  split
  · rfl
  · rename_i missing
    rw [KeyMap.find_none missing]
    rfl

/-- Of two parts of a stack, the upper one is looked up first. -/
theorem find_append (above below : Frames Custom) (key : String) :
    Frames.find? key (above ++ below) = (Frames.find? key above).or (Frames.find? key below) := by
  induction above with
  | nil => rfl
  | cons frame rest ih => rw [List.cons_append, find?, find?, ih, Option.or_assoc]

end Frames

/-! ### Contexts -/

/-- What a node gives has the type that is asked for. -/
theorem generate_type (custom : Empty → NodeId → ValueType → Program Empty Host TypedTerm)
    {fuel : Nat} {node : Node Empty} {output : ValueType} {start : Machine Empty Host}
    {expression : TypedTerm} (done : (generate custom fuel node output start).1 = .done expression) :
    expression.type = output := by
  cases fuel with
  | zero => cases done
  | succ fuel =>
      obtain ⟨raw, middle, _, finished⟩ := Action.bind_eq_done.mp (Prod.ext done rfl)
      exact (TypedTerm.coerce_converts (Action.finish_eq_done finished).1).type

/-- What already has the type that is asked for is not converted. -/
theorem Action.bind_finish {action : Action Empty Host TypedTerm} {output : ValueType}
    (typed : ∀ start expression, (action start).1 = .done expression → expression.type = output)
    (name : NodeName) : action.bind (.finish name output) = action := by
  funext start
  unfold Action.bind
  rcases ends : action start with ⟨outcome, last⟩
  cases outcome with
  | done expression =>
      have type := typed start expression (congrArg Prod.fst ends)
      have same : expression.coerce output = .ok expression := if_pos type
      simp only [finish, same, Action.done]
  | aborted cause | exhausted => rfl

/-- A context generates its child within a scope of its overrides. -/
theorem generate_context (custom : Empty → NodeId → ValueType → Program Empty Host TypedTerm)
    (fuel : Nat) (id : NodeId) (type : Option ValueType) (overrides : Frame Empty)
    (child : Node Empty) (output : ValueType) :
    generate custom (fuel + 1) (.context id type overrides child) output =
      .within overrides (generate custom fuel child output) := by
  have scope : (Node.program custom output (.context id type overrides child)).run
      (generate custom fuel) = .within overrides (generate custom fuel child output) := by
    simp only [Node.program, Program.generated, Program.run, Action.bind_done]
  rw [generate, scope]
  refine Action.bind_finish (fun start expression done => ?_) _
  have inside : (generate custom fuel child output (start.enter overrides)).1 = .done expression :=
    done
  exact generate_type custom inside

end ShadeTree
