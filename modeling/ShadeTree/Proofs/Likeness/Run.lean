import ShadeTree.Proofs.Likeness.Basic
import ShadeTree.Proofs.Scope.Balance

/-!
Actions and programs of one likeness.

Run on like builders, like actions end alike and leave like builders behind, each with the frames
that it was given. Each operation of a builder is like itself, and so the programs of like trees are
alike.
-/

namespace ShadeTree

namespace Likeness

variable {like : Likeness} {Host α β γ δ : Type} {answers : α → β → Prop} {others : γ → δ → Prop}

/-! ### Ends -/

/-- Errors that are the same but for the ids in them. -/
inductive Errors (like : Likeness) : GenerationError → GenerationError → Prop
  | coercion (cause : CoercionError) : Errors like (.coercion cause) (.coercion cause)
  | notFinite (value : Number.Single) : Errors like (.notFinite value) (.notFinite value)
  | badCoordinate (found : ValueType) : Errors like (.badCoordinate found) (.badCoordinate found)
  | dimensionClash (clash : DimensionClash) :
      Errors like (.dimensionClash clash) (.dimensionClash clash)
  | unusable {id other : NodeId} {label : String} {output : ValueType} {cause : CoercionError}
      (ids : like.ids id other) :
      Errors like (.unusable ⟨label, id⟩ output cause) (.unusable ⟨label, other⟩ output cause)

/-- Ends of one kind, with like answers or errors. -/
inductive Outcomes (like : Likeness) (answers : α → β → Prop) : Outcome α → Outcome β → Prop
  | done {left : α} {right : β} (same : answers left right) :
      Outcomes like answers (.done left) (.done right)
  | failed {error other : GenerationError} (errors : like.Errors error other) :
      Outcomes like answers (.aborted (.failed error)) (.aborted (.failed other))
  | exhausted : Outcomes like answers .exhausted .exhausted

/-- What two actions come to that start on the given machines. -/
structure Ends (like : Likeness) (answers : α → β → Prop) (start other : Machine Empty Host)
    (left : Outcome α × Machine Empty Host) (right : Outcome β × Machine Empty Host) : Prop where
  outcomes : like.Outcomes answers left.1 right.1
  builders : like.Builders left.2.builder right.2.builder
  left : left.2.builder.frames = start.builder.frames
  right : right.2.builder.frames = other.builder.frames

/-! ### Actions -/

def Actions (like : Likeness) (answers : α → β → Prop) (left : Action Empty Host α)
    (right : Action Empty Host β) : Prop :=
  ∀ start other, like.Builders start.builder other.builder →
    like.Ends answers start other (left start) (right other)

namespace Actions

theorem done {left : α} {right : β} (same : answers left right) :
    like.Actions answers (Action.done left : Action Empty Host α) (.done right) :=
  fun _ _ builders => ⟨.done same, builders, rfl, rfl⟩

theorem fail {error other : GenerationError} (errors : like.Errors error other) :
    like.Actions answers (Action.fail error : Action Empty Host α) (.fail other) :=
  fun _ _ builders => ⟨.failed errors, builders, rfl, rfl⟩

theorem exhausted : like.Actions answers (Action.exhausted : Action Empty Host α) .exhausted :=
  fun _ _ builders => ⟨.exhausted, builders, rfl, rfl⟩

/-- Like actions that continue alike are alike. -/
theorem bind {left : Action Empty Host α} {right : Action Empty Host β}
    {next : α → Action Empty Host γ} {follow : β → Action Empty Host δ}
    (first : like.Actions answers left right)
    (rest : ∀ answer other, answers answer other →
      like.Actions others (next answer) (follow other)) :
    like.Actions others (left.bind next) (right.bind follow) := by
  intro start other builders
  have ends := first start other builders
  unfold Action.bind
  rcases leftEnds : left start with ⟨ending, after⟩
  rcases rightEnds : right other with ⟨another, later⟩
  rw [leftEnds, rightEnds] at ends
  obtain ⟨outcomes, middle, lefts, rights⟩ := ends
  dsimp only at outcomes
  cases outcomes with
  | done same =>
      have last := rest _ _ same after later middle
      exact ⟨last.outcomes, last.builders, last.left.trans lefts, last.right.trans rights⟩
  | failed errors => exact ⟨.failed errors, middle, lefts, rights⟩
  | exhausted => exact ⟨.exhausted, middle, lefts, rights⟩

/-- Looks that see related things in like builders are like actions. -/
theorem inspect {look : Builder Empty → Host → α × Host} {watch : Builder Empty → Host → β × Host}
    (looks : ∀ left right host other, like.Builders left right →
      answers (look left host).1 (watch right other).1) :
    like.Actions answers (Action.inspect look) (.inspect watch) :=
  fun _ _ builders => ⟨.done (looks _ _ _ _ builders), builders, rfl, rfl⟩

theorem note (event other : Event) :
    like.Actions (fun _ _ => True) (Action.note event : Action Empty Host Unit) (.note other) :=
  fun _ _ builders => ⟨.done trivial, builders, rfl, rfl⟩

/-- The builders have like frames on top inside of a scope, and their own ones again outside of it. -/
theorem within {frame overrides : Frame Empty} (entries : like.Entries frame overrides)
    {left : Action Empty Host α} {right : Action Empty Host β}
    (bodies : like.Actions answers left right) :
    like.Actions answers (Action.within frame left) (.within overrides right) := by
  intro start other builders
  have ends := bodies (start.enter frame) (other.enter overrides) (builders.enter entries)
  -- both bodies leave their own frame on the stack, so that leaving cuts back to the old ones
  have leftBottom : frame :: start.builder.frames <:+ (left (start.enter frame)).2.builder.frames := by
    rw [ends.left]
    exact List.suffix_rfl
  have rightBottom :
      overrides :: other.builder.frames <:+ (right (other.enter overrides)).2.builder.frames := by
    rw [ends.right]
    exact List.suffix_rfl
  have leftFrames := Builder.leave_frames leftBottom
  have rightFrames := Builder.leave_frames rightBottom
  exact ⟨ends.outcomes, builders.leave ends.builders leftFrames rightFrames, leftFrames, rightFrames⟩

/-- Nodes with matched ids get locals of one name in like builders. -/
theorem declareLocal {owner other : NodeId} (ids : like.ids owner other) (type : ValueType)
    (initializer : String) :
    like.Actions Eq (Action.declareLocal owner type initializer : Action Empty Host String)
      (.declareLocal other type initializer) := by
  intro start another builders
  obtain ⟨names, declared⟩ := builders.declareLocal ids type initializer
  have lefts := Action.restores_declareLocal owner type initializer start
  have rights := Action.restores_declareLocal other type initializer another
  exact ⟨.done names, declared, lefts.1, rights.1⟩

/-- Like builders both register a texture, or both find it clashing. -/
theorem registerTexture (name : String) (dimension : Dimension) :
    like.Actions (fun _ _ => True) (Action.registerTexture name dimension : Action Empty Host Nat)
      (.registerTexture name dimension) := by
  intro start other builders
  have lefts := Action.restores_registerTexture name dimension start
  have rights := Action.restores_registerTexture name dimension other
  unfold Action.registerTexture at *
  obtain ⟨clash, left, right⟩ | ⟨index, after, later, left, right, registered⟩ :=
    builders.registerTexture name dimension
  · simp only [left, right] at *
    exact ⟨.failed (.dimensionClash clash), builders, lefts.1, rights.1⟩
  · simp only [left, right] at *
    exact ⟨.done trivial, registered, lefts.1, rights.1⟩

/-- Whether an expression can be converted depends on its type, and the error names its node. -/
theorem finish {id other : NodeId} (ids : like.ids id other) (label : String) (output : ValueType)
    {left right : TypedTerm} (same : like.Terms left right) :
    like.Actions like.Terms (Action.finish ⟨label, id⟩ output left : Action Empty Host TypedTerm)
      (.finish ⟨label, other⟩ output right) := by
  have results := same.coerce output
  unfold Action.finish
  generalize left.coerce output = first at results ⊢
  generalize right.coerce output = second at results ⊢
  cases results with
  | ok converted => exact .done converted
  | error cause => exact .fail (.unusable ids)

end Actions

end Likeness

end ShadeTree
