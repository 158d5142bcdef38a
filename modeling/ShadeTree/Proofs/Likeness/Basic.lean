import ShadeTree.Proofs.Generation.Reads
import ShadeTree.Proofs.Scope.Balance
import Mathlib.Data.List.Forall2

/-!
Likeness of trees and builders.

Two runs are compared node by node. The ids of nodes may differ as long as they are matched one to
one, contexts only have to agree on the keys that matter, and texts may differ if they do not count.
-/

namespace ShadeTree

open Number

structure Likeness where
  /-- Which ids belong to each other. -/
  ids : NodeId → NodeId → Prop
  unique {first second other another : NodeId} :
    ids first other → ids second another → (first = second ↔ other = another)
  /-- The keys on which contexts agree. -/
  keys : String → Prop
  /-- Whether texts have to be the same. -/
  texts : Prop

namespace Likeness

variable {like : Likeness}

/-! ### Trees -/

mutual

/-- Trees of one shape, in which no other keys are read than those that matter. -/
inductive Nodes (like : Likeness) : Node Empty → Node Empty → Prop
  | expression {id other : NodeId} {snippet another : String} {type : ValueType}
      (ids : like.ids id other) (same : like.texts → snippet = another) :
      Nodes like (.expression id snippet type) (.expression other another type)
  | float {id other : NodeId} {value : Single} {isConst : Bool} (ids : like.ids id other) :
      Nodes like (.float id value isConst) (.float other value isConst)
  | normal {id other : NodeId} {space : NormalSpace} (ids : like.ids id other) :
      Nodes like (.normal id space) (.normal other space)
  | context {id other : NodeId} {type : Option ValueType} {overrides others : Frame Empty}
      {child another : Node Empty} (ids : like.ids id other)
      (installed : Entries like overrides others) (inside : Nodes like child another) :
      Nodes like (.context id type overrides child) (.context other type others another)
  | reader {id other : NodeId} {key : String} {fallback another : Node Empty}
      (ids : like.ids id other) (read : like.keys key) (inside : Nodes like fallback another) :
      Nodes like (.reader id key fallback) (.reader other key another)
  | sample {id other : NodeId} {texture : String} (ids : like.ids id other)
      (uv : like.keys uvKey) (roughness : like.keys roughnessKey) :
      Nodes like (.sample id texture) (.sample other texture)
  | binary {id other : NodeId} {operation : BinaryOperation} {left right first second : Node Empty}
      (ids : like.ids id other) (lefts : Nodes like left first) (rights : Nodes like right second) :
      Nodes like (.binary id operation left right) (.binary other operation first second)
  | mix {id other : NodeId} {left right factor first second third : Node Empty}
      (ids : like.ids id other) (lefts : Nodes like left first) (rights : Nodes like right second)
      (factors : Nodes like factor third) :
      Nodes like (.mix id left right factor) (.mix other first second third)

inductive Values (like : Likeness) : Value Empty → Value Empty → Prop
  | node {tree other : Node Empty} (inside : Nodes like tree other) :
      Values like (.node tree) (.node other)
  | literal {text other : String} {type : ValueType} {isConst : Bool}
      (same : like.texts → text = other) :
      Values like (.literal ⟨text, type, isConst⟩) (.literal ⟨other, type, isConst⟩)

/-- Frames with the same keys. -/
inductive Entries (like : Likeness) : List (String × Value Empty) → List (String × Value Empty) → Prop
  | nil : Entries like [] []
  | cons {key : String} {value other : Value Empty} {rest others : List (String × Value Empty)}
      (values : Values like value other) (later : Entries like rest others) :
      Entries like ((key, value) :: rest) ((key, other) :: others)

end

/-- Trees of one shape have the same label at the root. -/
theorem Nodes.label {left right : Node Empty} (same : like.Nodes left right) :
    left.label = right.label := by
  cases same <;> rfl

/-- The ids of two roots of one shape belong together. -/
theorem Nodes.ids {left right : Node Empty} (same : like.Nodes left right) :
    like.ids left.id right.id := by
  cases same <;> assumption

/-- Trees of one shape have one type, by induction on the tree. -/
theorem Nodes.type : {left right : Node Empty} → like.Nodes left right → left.type = right.type
  | .expression .., _, .expression .. | .float .., _, .float .. | .normal .., _, .normal ..
  | .sample .., _, .sample .. => rfl
  | .context _ type _ _, _, .context _ _ inside => congrArg type.getD inside.type
  | .reader .., _, .reader _ _ inside => inside.type
  | .binary .., _, .binary _ lefts rights => congrArg₂ ValueType.promoted lefts.type rights.type
  | .mix .., _, .mix _ lefts rights _ => congrArg₂ ValueType.promoted lefts.type rights.type

/-- Values of one shape have one type. -/
theorem Values.type {left right : Value Empty} (same : like.Values left right) :
    left.type = right.type := by
  cases same with
  | node inside => exact inside.type
  | literal same => rfl

/-- A key finds values of one shape in two frames of one shape. -/
theorem Entries.find {left right : Frame Empty} (same : like.Entries left right) (key : String) :
    Option.Rel like.Values (KeyMap.find? key left) (KeyMap.find? key right) := by
  induction left generalizing right with
  | nil =>
      cases same
      exact .none
  | cons entry rest ih =>
      cases same with
      | cons values later =>
          rw [KeyMap.find?, KeyMap.find?]
          split
          · exact .some values
          · exact ih later

/-! ### Expressions -/

/-- Expressions that are the same but for their texts, if these do not count. -/
structure Terms (like : Likeness) (left right : TypedTerm) : Prop where
  type : left.type = right.type
  isConst : left.isConst = right.isConst
  term : like.texts → left.term = right.term

/-- Results that are both there and alike, or missing for the same cause. -/
inductive Results {ε α β : Type} (answers : α → β → Prop) : Except ε α → Except ε β → Prop
  | ok {left : α} {right : β} (same : answers left right) : Results answers (.ok left) (.ok right)
  | error (cause : ε) : Results answers (.error cause) (.error cause)

namespace Terms

variable {left right first second : TypedTerm}

/-- A term is like itself. -/
theorem refl (expression : TypedTerm) : like.Terms expression expression :=
  ⟨rfl, rfl, fun _ => rfl⟩

/-- Two like terms are equal where texts count. -/
theorem eq (same : like.Terms left right) (counts : like.texts) : left = right := by
  cases left
  cases right
  obtain ⟨rfl, rfl, term⟩ := same
  obtain rfl := term counts
  rfl

/-- Like terms stay alike when they are repeated into the same lanes. -/
theorem repeated (same : like.Terms left right) (target : ValueType) (copies : Nat)
    (pads : List Pad) : like.Terms (left.repeated target copies pads) (right.repeated target copies pads) where
  type := rfl
  isConst := same.isConst
  term counts := congrArg (Term.vector target copies · pads) (same.term counts)

/-- Like terms stay alike when the same lanes are cut off. -/
theorem narrowed (same : like.Terms left right) (target : ValueType) (count : Nat) :
    like.Terms (left.narrowed target count) (right.narrowed target count) where
  type := rfl
  isConst := same.isConst
  term counts := congrArg (fun term => Term.lanes (.group term) count) (same.term counts)

/-- Whether and how an expression is converted depends on the types alone. -/
theorem coerce (same : like.Terms left right) (target : ValueType) :
    Results like.Terms (left.coerce target) (right.coerce target) := by
  obtain ⟨type, term, isConst⟩ := left
  obtain ⟨other, _, _⟩ := right
  obtain rfl : type = other := same.type
  cases type <;> cases target
  all_goals
    first
    | exact .ok same
    | exact .ok (same.repeated ..)
    | exact .ok (same.narrowed ..)
    | exact .error _

/-- Operands with their common type. -/
def Operands (like : Likeness) (left right : TypedTerm × TypedTerm × ValueType) : Prop :=
  like.Terms left.1 right.1 ∧ like.Terms left.2.1 right.2.1 ∧ left.2.2 = right.2.2

/-- Like operands unify to like operands, or both fail to. -/
theorem unify (same : like.Terms left right) (also : like.Terms first second) :
    Results (Operands like) (left.unify first) (right.unify second) := by
  obtain ⟨type, term, isConst⟩ := left
  obtain ⟨other, _, _⟩ := right
  obtain rfl : type = other := same.type
  obtain ⟨otherType, otherTerm, otherConst⟩ := first
  obtain ⟨another, _, _⟩ := second
  obtain rfl : otherType = another := also.type
  cases type <;> cases otherType
  all_goals
    first
    | exact .ok ⟨same, also, rfl⟩
    | exact .ok ⟨same.repeated .., also, rfl⟩
    | exact .ok ⟨same, also.repeated .., rfl⟩
    | exact .error _

end Terms

/-! ### Builders -/

/-- Texts that do not count may come from any configurations under which samples have a level. -/
def Configs (like : Likeness) (left right : Config) : Prop :=
  left = right ∨ ¬like.texts ∧ left.envMaxMip.isFinite ∧ right.envMaxMip.isFinite

/-- Locals that differ in their owners only. -/
structure Locals (like : Likeness) (left right : LocalVariable) : Prop where
  owner : like.ids left.owner right.owner
  name : left.name = right.name
  type : left.type = right.type
  initializer : left.initializer = right.initializer

/-- Builders with the same declarations that resolve the keys that matter alike, however many frames
they have. -/
structure Builders (like : Likeness) (left right : Builder Empty) : Prop where
  config : like.Configs left.config right.config
  locals : List.Forall₂ like.Locals left.locals right.locals
  textures : left.textures = right.textures
  resolved : ∀ key, like.keys key → Option.Rel like.Values (left.find? key) (right.find? key)

/-- Of two related lookups, the first that succeeds is the same one on both sides. -/
theorem rel_or {related : Value Empty → Value Empty → Prop}
    {left right first second : Option (Value Empty)} (inner : Option.Rel related left right)
    (outer : Option.Rel related first second) : Option.Rel related (left.or first) (right.or second) := by
  cases inner with
  | none => exact outer
  | some values => exact .some values

/-- The local of a node stands at one place in like lists of locals. -/
theorem findIdx_eq {left right : List LocalVariable} (locals : List.Forall₂ like.Locals left right)
    {owner other : NodeId} (ids : like.ids owner other) :
    (left.findIdx fun declared => declared.owner == owner) =
      right.findIdx fun declared => declared.owner == other := by
  induction locals with
  | nil => rfl
  | cons same rest ih =>
      have owners := like.unique same.owner ids
      rw [List.findIdx_cons, List.findIdx_cons, ih]
      simp only [beq_eq_decide, owners]

theorem rel_getElem {left right : List LocalVariable} (locals : List.Forall₂ like.Locals left right)
    (index : Nat) : Option.Rel like.Locals left[index]? right[index]? := by
  induction locals generalizing index with
  | nil => exact .none
  | cons same rest ih =>
      cases index with
      | zero => exact .some same
      | succ index => exact ih index

namespace Builders

variable {left right : Builder Empty}

/-- Builders that are alike are so after their declarations are forgotten. -/
theorem reset (builders : like.Builders left right) : like.Builders left.reset right.reset :=
  ⟨builders.config, .nil, rfl, builders.resolved⟩

/-- Builders that are alike are so after entering like frames. -/
theorem enter (builders : like.Builders left right) {frame overrides : Frame Empty}
    (entries : like.Entries frame overrides) :
    like.Builders (left.enter frame) (right.enter overrides) :=
  ⟨builders.config, builders.locals, builders.textures, fun key read =>
    rel_or (entries.find key) (builders.resolved key read)⟩

/-- Builders that are alike inside a scope are so after it is left. -/
theorem leave (outside : like.Builders left right) {after later : Builder Empty}
    (inside : like.Builders after later) (leftFrames : (after.leave left).frames = left.frames)
    (rightFrames : (later.leave right).frames = right.frames) :
    like.Builders (after.leave left) (later.leave right) := by
  refine ⟨inside.config, inside.locals, inside.textures, fun key read => ?_⟩
  rw [Builder.find?, Builder.find?, leftFrames, rightFrames]
  exact outside.resolved key read

/-- Like builders give a name at the same place of their tables. -/
theorem declareLocal (builders : like.Builders left right) {owner other : NodeId}
    (ids : like.ids owner other) (type : ValueType) (initializer : String) :
    (left.declareLocal owner type initializer).1 = (right.declareLocal other type initializer).1 ∧
      like.Builders (left.declareLocal owner type initializer).2
        (right.declareLocal other type initializer).2 := by
  have index : left.localIndex owner = right.localIndex other := findIdx_eq builders.locals ids
  have found := rel_getElem builders.locals (right.localIndex other)
  unfold Builder.declareLocal
  dsimp only
  rw [index]
  generalize left.locals[right.localIndex other]? = first at found ⊢
  generalize right.locals[right.localIndex other]? = second at found ⊢
  cases found with
  | some same => exact ⟨same.name, builders⟩
  | none =>
      refine ⟨rfl, builders.config, ?_, builders.textures, builders.resolved⟩
      exact List.rel_append builders.locals (.cons ⟨ids, rfl, rfl, rfl⟩ .nil)

/-- The tables of textures are the same, so like builders refuse the same textures. -/
theorem registerTexture (builders : like.Builders left right) (name : String)
    (dimension : Dimension) :
    (∃ clash, left.registerTexture name dimension = .error clash ∧
        right.registerTexture name dimension = .error clash) ∨
      ∃ index after later, left.registerTexture name dimension = .ok (index, after) ∧
        right.registerTexture name dimension = .ok (index, later) ∧ like.Builders after later := by
  unfold Builder.registerTexture Builder.textureIndex
  dsimp only
  rw [builders.textures]
  split
  · split
    · exact .inr ⟨_, _, _, rfl, rfl, builders⟩
    · exact .inl ⟨_, rfl, rfl⟩
  · exact .inr ⟨_, _, _, rfl, rfl, builders.config, builders.locals, rfl, builders.resolved⟩

end Builders

end Likeness

end ShadeTree
