import ShadeTree.Proofs.Likeness.Generation

/-!
Like trees are built alike.

A build starts without declarations, so that it only matters how the builders are configured and what
they resolve keys to. What earlier builds left behind does not.
-/

namespace ShadeTree

namespace Likeness

variable {like : Likeness} {Host : Type}

/-- Fragments that are the same but for the owners of their locals, and for texts if these do not
count. -/
structure Fragments (like : Likeness) (left right : Fragment) : Prop where
  expression : like.Terms left.expression right.expression
  locals : List.Forall₂ like.Locals left.locals right.locals
  textures : left.textures = right.textures
  source : like.texts → left.source = right.source

/-- The owner of a local is not written into the module. -/
theorem localLines_eq {left right : List LocalVariable} (locals : List.Forall₂ like.Locals left right) :
    left.map Module.localLine = right.map Module.localLine := by
  induction locals with
  | nil => rfl
  | cons same rest ih =>
      rw [List.map_cons, List.map_cons, ih]
      unfold Module.localLine
      rw [same.name, same.type, same.initializer]

/-- Like builders assemble like fragments around like expressions. -/
theorem Builders.assemble {left right : Builder Empty} (builders : like.Builders left right)
    {expression other : TypedTerm} (same : like.Terms expression other) :
    like.Fragments (left.assemble expression) (right.assemble other) where
  expression := same
  locals := builders.locals
  textures := builders.textures
  source counts := by
    obtain config | ⟨free, _⟩ := builders.config
    · unfold Builder.assemble Module.source Module.functionLines TypedTerm.text
      dsimp only
      rw [config, builders.textures, localLines_eq builders.locals, same.type, same.term counts]
    · exact absurd counts free

/-- Builds are alike wherever their roots are generated alike, whatever was declared before. -/
theorem Actions.build {generateNode generateOther : Node Empty → ValueType → Action Empty Host TypedTerm}
    {root other : Node Empty} {output : ValueType}
    (generates : like.Actions like.Terms (generateNode root output) (generateOther other output))
    (start another : Machine Empty Host)
    (configs : like.Configs start.builder.config another.builder.config)
    (resolved : ∀ key, like.keys key →
      Option.Rel like.Values (start.builder.find? key) (another.builder.find? key)) :
    like.Ends like.Fragments start another (Action.build generateNode root output start)
      (Action.build generateOther other output another) := by
  have emptied : like.Builders start.builder.reset another.builder.reset :=
    ⟨configs, .nil, rfl, resolved⟩
  have ends := generates (start.compiling root output) (another.compiling other output) emptied
  unfold Machine.compiling at ends
  unfold Action.build
  dsimp only
  generalize generateNode root output _ = left at ends ⊢
  generalize generateOther other output _ = right at ends ⊢
  obtain ⟨outcome, after⟩ := left
  obtain ⟨ending, later⟩ := right
  obtain ⟨outcomes, builders, leftFrames, rightFrames⟩ := ends
  dsimp only at outcomes
  cases outcomes with
  | done same => exact ⟨.done (builders.assemble same), builders, leftFrames, rightFrames⟩
  | failed errors => exact ⟨.failed errors, builders.reset, leftFrames, rightFrames⟩
  | exhausted => exact ⟨.exhausted, builders, leftFrames, rightFrames⟩

end Likeness

end ShadeTree
