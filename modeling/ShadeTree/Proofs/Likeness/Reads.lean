import ShadeTree.Proofs.Likeness.Generation
import ShadeTree.Proofs.Scope.Overlay
import Mathlib.Data.Set.Basic

/-!
Generation depends on the context through the keys that are read.

Builders that agree on these keys give the same expressions, however their frames differ otherwise.
So frames without such keys can be left out, and a context in a context can be merged with it.
-/

namespace ShadeTree

variable {Custom Host α : Type}

/-! ### Trees are like themselves -/

namespace Likeness

variable {like : Likeness}

mutual

/-- By induction on the tree, whose own readers are among those that matter. -/
theorem Nodes.self (ids : ∀ id, like.ids id id) :
    (node : Node Empty) → (∀ key ∈ node.reads, like.keys key) → like.Nodes node node
  | .expression id _ _, _ => .expression (ids id) fun _ => rfl
  | .float id _ _, _ => .float (ids id)
  | .normal id _, _ => .normal (ids id)
  | .context id _ overrides child, reads => by
      have inside := List.forall_mem_append.mp reads
      exact .context (ids id) (Entries.self ids overrides inside.1) (Nodes.self ids child inside.2)
  | .reader id _ fallback, reads => by
      have inside := List.forall_mem_cons.mp reads
      exact .reader (ids id) inside.1 (Nodes.self ids fallback inside.2)
  | .sample id _, reads => by
      have keys := List.forall_mem_cons.mp reads
      exact .sample (ids id) keys.1 (List.forall_mem_singleton.mp keys.2)
  | .binary id _ left right, reads => by
      have inside := List.forall_mem_append.mp reads
      exact .binary (ids id) (Nodes.self ids left inside.1) (Nodes.self ids right inside.2)
  | .mix id left right factor, reads => by
      have inside := List.forall_mem_append.mp reads
      have later := List.forall_mem_append.mp inside.2
      exact .mix (ids id) (Nodes.self ids left inside.1) (Nodes.self ids right later.1)
        (Nodes.self ids factor later.2)

/-- A value is like itself when the keys it reads matter. -/
theorem Values.self (ids : ∀ id, like.ids id id) :
    (value : Value Empty) → (∀ key ∈ value.reads, like.keys key) → like.Values value value
  | .node tree, reads => .node (Nodes.self ids tree reads)
  | .literal _, _ => .literal fun _ => rfl

/-- A frame is like itself when the keys its values read matter. -/
theorem Entries.self (ids : ∀ id, like.ids id id) :
    (frame : List (String × Value Empty)) → (∀ key ∈ Value.readsAll frame, like.keys key) →
      like.Entries frame frame
  | [], _ => .nil
  | (_, value) :: rest, reads => by
      have inside := List.forall_mem_append.mp reads
      exact .cons (Values.self ids value inside.1) (Entries.self ids rest inside.2)

end

/-- Nothing differs but what is found under other keys. -/
def onKeys (keys : Set String) : Likeness where
  ids := Eq
  unique := by
    rintro first second _ _ rfl rfl
    rfl
  keys := (· ∈ keys)
  texts := True

/-- Like errors are equal when every id belongs to itself only. -/
theorem Errors.eq (unique : ∀ {id other : NodeId}, like.ids id other → id = other)
    {error other : GenerationError} (errors : like.Errors error other) : error = other := by
  cases errors with
  | unusable ids =>
      cases unique ids
      rfl
  | coercion | notFinite | badCoordinate | dimensionClash => rfl

/-- Like locals are equal when every id belongs to itself only. -/
theorem Locals.eq (unique : ∀ {id other : NodeId}, like.ids id other → id = other)
    {left right : LocalVariable} (same : like.Locals left right) : left = right := by
  cases left
  cases right
  obtain ⟨ids, rfl, rfl, rfl⟩ := same
  cases unique ids
  rfl

/-- Outcomes that are alike on keys are equal. -/
theorem Outcomes.eq {keys : Set String} {left right : Outcome TypedTerm}
    (same : (onKeys keys).Outcomes (onKeys keys).Terms left right) : left = right := by
  cases same with
  | done terms => rw [terms.eq trivial]
  | failed errors => rw [errors.eq id]
  | exhausted => rfl

end Likeness

/-! ### Generation -/

/-- Builders with the same configuration and declarations that have the same values under the given
keys, which do not read any other ones. -/
structure Builder.Agree (keys : Set String) (left right : Builder Custom) : Prop where
  config : left.config = right.config
  locals : left.locals = right.locals
  textures : left.textures = right.textures
  resolved : ∀ key ∈ keys, left.find? key = right.find? key
  closed : ∀ key ∈ keys, ∀ value, left.find? key = some value → ∀ read ∈ value.reads, read ∈ keys

/-- The same outcome and the same declarations. -/
structure SameEnd (left right : Outcome α × Machine Custom Host) : Prop where
  outcome : left.1 = right.1
  locals : left.2.builder.locals = right.2.builder.locals
  textures : left.2.builder.textures = right.2.builder.textures

/-- Leaving a scope changes neither the outcome nor the declarations. -/
theorem SameEnd.within {frame : Frame Custom} {body : Action Custom Host α}
    {machine : Machine Custom Host} {ends : Outcome α × Machine Custom Host}
    (inside : SameEnd (body (machine.enter frame)) ends) :
    SameEnd (Action.within frame body machine) ends :=
  ⟨inside.outcome, inside.locals, inside.textures⟩

theorem SameEnd.symm {left right : Outcome α × Machine Custom Host} (same : SameEnd left right) :
    SameEnd right left :=
  ⟨same.outcome.symm, same.locals.symm, same.textures.symm⟩

namespace Builder.Agree

variable {keys : Set String} {left right : Builder Empty}

/-- Machines that agree on keys have builders that are alike on those keys. -/
theorem builders (agree : left.Agree keys right) : (Likeness.onKeys keys).Builders left right where
  config := .inl agree.config
  locals := agree.locals ▸ List.forall₂_same.mpr fun _ _ => ⟨rfl, rfl, rfl, rfl⟩
  textures := agree.textures
  resolved key read := by
    rw [← agree.resolved key read]
    cases found : left.find? key with
    | none => exact .none
    | some value => exact .some (.self (fun _ => rfl) value (agree.closed key read value found))

/-- Overrides without the keys change nothing that is read. -/
theorem enter (agree : left.Agree keys right) {frame : Frame Empty}
    (unread : ∀ key ∈ keys, KeyMap.find? key frame = none) : (left.enter frame).Agree keys right := by
  have same : ∀ key ∈ keys, (left.enter frame).find? key = left.find? key := fun key read =>
    congrArg (Option.or · (left.find? key)) (unread key read)
  refine ⟨agree.config, agree.locals, agree.textures, fun key read => ?_, fun key read => ?_⟩
  · rw [same key read]
    exact agree.resolved key read
  · rw [same key read]
    exact agree.closed key read

end Builder.Agree

/-- Trees that read given keys only are generated alike on builders that agree on these keys. -/
theorem generate_sameEnd (custom : Empty → NodeId → ValueType → Program Empty Host TypedTerm)
    (fuel : Nat) {node : Node Empty} (output : ValueType) {keys : Set String}
    (reads : ∀ key ∈ node.reads, key ∈ keys) {left right : Machine Empty Host}
    (agree : left.builder.Agree keys right.builder) :
    SameEnd (generate custom fuel node output left) (generate custom fuel node output right) := by
  have like : (Likeness.onKeys keys).Nodes node node := .self (fun _ => rfl) node reads
  have ends := like.generate custom custom fuel output left right agree.builders
  refine ⟨ends.outcomes.eq, ?_, ends.builders.textures⟩
  exact List.forall₂_eq_eq_eq ▸ ends.builders.locals.imp fun _ _ same => same.eq id

/-- A machine whose builder has other frames. -/
def Machine.withFrames (machine : Machine Custom Host) (frames : Frames Custom) :
    Machine Custom Host :=
  machine.update { machine.builder with frames }

/-- A frame without the keys can be taken out of the stack. -/
theorem Builder.Agree.remove {keys : Set String} {builder : Builder Empty}
    (agree : builder.Agree keys builder) {above below : Frames Empty} {frame : Frame Empty}
    (frames : builder.frames = above ++ frame :: below)
    (unread : ∀ key ∈ keys, KeyMap.find? key frame = none) :
    builder.Agree keys { builder with frames := above ++ below } where
  config := rfl
  locals := rfl
  textures := rfl
  resolved key read := by
    unfold find?
    dsimp only
    rw [frames, Frames.find_append, Frames.find_append, Frames.find?, unread key read, Option.none_or]
  closed := agree.closed

/-- Any two builders generate a tree alike, in outcome and declarations, if they agree on keys among
which are all that the tree reads. So a frame or a context without any of these keys, such as an empty
one, changes nothing, and only the overrides that are read tell two contexts apart. A context right in
another one is the same as one with the overrides of the inner context over those of the outer one. -/
theorem generate_depends_on_reads
    (custom : Empty → NodeId → ValueType → Program Empty Host TypedTerm) (fuel : Nat)
    (node : Node Empty) (output : ValueType) :
    (∀ keys : Set String, (∀ key ∈ node.reads, key ∈ keys) →
      (∀ left right : Machine Empty Host, left.builder.Agree keys right.builder →
        SameEnd (generate custom fuel node output left) (generate custom fuel node output right)) ∧
      (∀ (machine : Machine Empty Host) (above : Frames Empty) (frame : Frame Empty)
        (below : Frames Empty), machine.builder.Agree keys machine.builder →
        machine.builder.frames = above ++ frame :: below →
        (∀ key ∈ keys, KeyMap.find? key frame = none) →
        SameEnd (generate custom fuel node output machine)
          (generate custom fuel node output (machine.withFrames (above ++ below)))) ∧
      (∀ (machine : Machine Empty Host) (id : NodeId) (type : Option ValueType)
        (overrides : Frame Empty), machine.builder.Agree keys machine.builder →
        (∀ key ∈ keys, KeyMap.find? key overrides = none) →
        SameEnd (generate custom (fuel + 1) (.context id type overrides node) output machine)
          (generate custom fuel node output machine)) ∧
      (∀ (machine : Machine Empty Host) (id other : NodeId) (type another : Option ValueType)
        (overrides others : Frame Empty),
        (machine.builder.enter overrides).Agree keys (machine.builder.enter others) →
        SameEnd (generate custom (fuel + 1) (.context id type overrides node) output machine)
          (generate custom (fuel + 1) (.context other another others node) output machine))) ∧
    (∀ (machine : Machine Empty Host) (id other last : NodeId)
      (type another merged : Option ValueType) (outer inner : Frame Empty),
      SameEnd
        (generate custom (fuel + 2) (.context id type outer (.context other another inner node))
          output machine)
        (generate custom (fuel + 1) (.context last merged (Frames.overlay outer inner) node)
          output machine)) := by
  refine ⟨fun keys reads => ⟨?_, ?_, ?_, ?_⟩, ?_⟩
  · intro left right agree
    exact generate_sameEnd custom fuel output reads agree
  · intro machine above frame below agree frames unread
    have same : machine.builder.Agree keys (machine.withFrames (above ++ below)).builder :=
      agree.remove frames unread
    exact generate_sameEnd custom fuel output reads same
  · intro machine id type overrides agree unread
    have inside : (machine.enter overrides).builder.Agree keys machine.builder := agree.enter unread
    rw [generate_context]
    exact (generate_sameEnd custom fuel output reads inside).within
  · intro machine id other type another overrides others agree
    have inside : (machine.enter overrides).builder.Agree keys (machine.enter others).builder := agree
    rw [generate_context, generate_context]
    have same := (generate_sameEnd custom fuel output reads inside).within
    exact same.symm.within.symm
  · intro machine id other last type another merged outer inner
    -- nothing has to be left out, so that all keys may be read
    have inside : ((machine.enter outer).enter inner).builder.Agree Set.univ
        (machine.enter (Frames.overlay outer inner)).builder := by
      refine ⟨rfl, rfl, rfl, fun key _ => ?_, fun _ _ _ _ _ _ => trivial⟩
      have merge : (KeyMap.find? key (Frames.overlay outer inner)).or (machine.builder.find? key) =
          (KeyMap.find? key inner).or ((KeyMap.find? key outer).or (machine.builder.find? key)) := by
        rw [Frames.find_overlay, Option.or_assoc]
      exact merge.symm
    rw [generate_context, generate_context, generate_context]
    have reads : ∀ key ∈ node.reads, key ∈ Set.univ := fun _ _ => trivial
    have same := generate_sameEnd custom fuel output reads inside
    exact same.within.within.symm.within.symm

/-- The tint is a node that reads the gloss. -/
def tintReader : Node Empty :=
  .reader 2 "tint" (.expression 1 "vec3f(1.0)" .vec3)

def tintFrame : Frame Empty :=
  [("tint", .node (.reader 4 "gloss" (.expression 3 "0.5" .f32)))]

def glossFrame : Frame Empty :=
  [("gloss", .literal ⟨"0.25", .f32, true⟩)]

def shineFrame : Frame Empty :=
  [("shine", .literal ⟨"0.75", .f32, true⟩)]

def framesMachine (frames : Frames Empty) : Machine Empty Unit :=
  (⟨Builder.ofConfig .default, (), []⟩ : Machine Empty Unit).withFrames frames

/-- The two stacks differ in the number of their frames, in the order of these and in other keys. -/
theorem tint_generates_alike :
    let keys : Set String := {"tint", "gloss"}
    let left := framesMachine [tintFrame, glossFrame]
    let right := framesMachine [shineFrame, glossFrame, [], tintFrame]
    (∀ key ∈ tintReader.reads, key ∈ keys) ∧ left.builder.Agree keys right.builder ∧
      SameEnd (generate (fun content => content.elim) 3 tintReader .vec3 left)
        (generate (fun content => content.elim) 3 tintReader .vec3 right) := by
  intro keys left right
  have reads : ∀ key ∈ tintReader.reads, key ∈ keys := by
    intro key read
    cases List.mem_singleton.mp read
    exact .inl rfl
  have agree : left.builder.Agree keys right.builder := by
    refine ⟨rfl, rfl, rfl, ?_, ?_⟩
    · rintro key (rfl | rfl) <;> rfl
    · rintro key (rfl | rfl) value found read inside <;> cases found
      · cases List.mem_singleton.mp inside
        exact .inr rfl
      · cases inside
  refine ⟨reads, agree, ?_⟩
  exact ((generate_depends_on_reads _ 3 tintReader .vec3).1 keys reads).1 left right agree

end ShadeTree
