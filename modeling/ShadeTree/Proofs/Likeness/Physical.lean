import ShadeTree.Proofs.Likeness.Matching
import ShadeTree.Proofs.Likeness.Numbering

/-!
Physical contexts are contexts with fixed overrides.

A graph in which they are written out as such has the same modules. Its nodes take their ids in another
order, since a context has its overrides before its child and a physical one has them after it.
-/

namespace ShadeTree

open Number

variable {Host : Type}

/-! ### Descriptions with contexts only -/

/-- What a scope installs, as the values of a context. -/
def PhysicalScope.values : PhysicalScope → List (String × NodeDescription)
  | .radiance => [(roughnessKey, .expression roughnessFactor .f32)]
  | .irradiance =>
    [(roughnessKey, .float (Single.ofWord 0x3f800000) true), (uvKey, .normal "world")]

mutual

/-- The description with contexts in place of its physical ones, those in values included. A scope that
is not known stays as it is. -/
def NodeDescription.plain : NodeDescription → NodeDescription
  | .physicalContext name child =>
    match PhysicalScope.ofName? name with
    | some scope => .context scope.values child.plain (some .vec3)
    | none => .physicalContext name child.plain
  | .context values child type => .context (NodeDescription.plainValues values) child.plain type
  | .expression snippet type => .expression snippet type
  | .float value isConst => .float value isConst
  | .normal space => .normal space
  | .contextValue key fallback => .contextValue key fallback.plain
  | .environmentSample texture => .environmentSample texture
  | .math operation inputs => .math operation (NodeDescription.plainInputs inputs)

def NodeDescription.plainValues :
    List (String × NodeDescription) → List (String × NodeDescription)
  | [] => []
  | (key, value) :: rest => (key, value.plain) :: NodeDescription.plainValues rest

def NodeDescription.plainInputs : List NodeDescription → List NodeDescription
  | [] => []
  | input :: rest => input.plain :: NodeDescription.plainInputs rest

end

def GraphDescription.plain (graph : GraphDescription) : GraphDescription :=
  { graph with root := graph.root.plain }

/-! ### Their constructions -/

namespace PhysicalScope

/-- What a scope installs if its nodes take the ids from the given one on. -/
def frame (next : NodeId) : PhysicalScope → Frame Empty
  | .radiance => [(roughnessKey, .node (.expression next roughnessFactor .f32))]
  | .irradiance =>
    [(roughnessKey, .node (.float next (Single.ofWord 0x3f800000) true)),
      (uvKey, .node (.normal (next + 1) .world))]

/-- The id behind those of what a scope installs. -/
def behind (next : NodeId) : PhysicalScope → NodeId
  | .radiance => next + 1
  | .irradiance => next + 2

/-- The overrides of a physical scope take the ids next in line, one after another. -/
theorem run_overrides (scope : PhysicalScope) (next : NodeId) :
    scope.overrides.run next = (.ok (scope.frame next), scope.behind next) := by
  cases scope <;> rfl

/-- The name of a physical scope is read back as that scope. -/
theorem parse_name (scope : PhysicalScope) : parse scope.name = .ok scope := by
  cases scope <;> rfl

end PhysicalScope

/-- A physical context numbers its child first, then its overrides, and itself last. -/
theorem NodeDescription.run_physicalContext (scope : PhysicalScope) (child : NodeDescription)
    (start : NodeId) :
    (NodeDescription.physicalContext scope.name child).build.run start =
      match child.build.run start with
      | (.ok tree, next) =>
        (.ok (.context (scope.behind next) (some .vec3) (scope.frame next) tree),
          scope.behind next + 1)
      | (.error cause, next) => (.error cause, next) := by
  rw [NodeDescription.build, scope.parse_name]
  change (child.build >>= scope.wrap).run start = _
  rw [Construction.run_bind]
  rcases child.build.run start with ⟨cause | tree, next⟩
  · rfl
  · dsimp only
    rw [PhysicalScope.wrap, Construction.run_bind, scope.run_overrides]
    rfl

namespace Likeness.Matches

/-- The overrides of a physical scope match the values they are written as. -/
theorem overrides (scope : PhysicalScope) :
    Matches Entries scope.overrides (NodeDescription.buildValues scope.values) := by
  intro next other
  cases scope with
  | radiance =>
      refine .ok [(next, other)] (.one next) (.one other) fun like covers => ?_
      exact .cons (.node (.expression (covers.ids _ (.head _)) fun _ => rfl)) .nil
  | irradiance =>
      have two (start : NodeId) : Taken [start, start + 1] start (start + 2) :=
        (Taken.one start).append (.one (start + 1))
      refine .ok [(next, other), (next + 1, other + 1)] (two next) (two other) fun like covers => ?_
      have roughness := covers.ids _ (.head _)
      have uv := covers.ids _ (.tail _ (.head _))
      exact .cons (.node (.float roughness)) (.cons (.node (.normal uv)) .nil)

/-- The overrides of a scope cannot fail, so they may as well come before the child. -/
theorem wrap (scope : PhysicalScope) {left right : Construction (Node Empty)}
    (inside : Matches Nodes left right) :
    Matches Nodes (left >>= scope.wrap) (do
      let overrides ← NodeDescription.buildValues scope.values
      let child ← right
      return .context (← Construction.fresh) (some .vec3) overrides child) := by
  have sure (start : NodeId) :
      ∃ frame after, (scope.overrides : Construction (Frame Empty)).run start = (.ok frame, after) :=
    ⟨_, _, scope.run_overrides start⟩
  refine inside.early (overrides scope) sure fun child other frame another => ?_
  exact fresh.bind fun _ _ _ => .pure fun _ _ ids same installed => .context ids installed same

/-- The operands that are alike have one number, so that both constructions count them alike. -/
theorem apply (operation : Operation) {inputs others : List (Node Empty)}
    (some : ∃ like : Likeness, List.Forall₂ like.Nodes inputs others) :
    Matches (fun like left right => List.Forall₂ like.Nodes inputs others → like.Nodes left right)
      (operation.apply inputs) (operation.apply others) := by
  obtain ⟨_, same⟩ := some
  have length : inputs.length = others.length := same.length_eq
  unfold Operation.apply
  cases operation with
  | add | multiply =>
      rcases same with _ | ⟨_, _ | ⟨_, _ | ⟨_, more⟩⟩⟩
      case cons.cons.nil =>
        refine fresh.bind fun _ _ _ => .pure fun like _ ids all => ?_
        obtain _ | ⟨lefts, _ | ⟨rights, _⟩⟩ := all
        exact .binary ids lefts rights
      all_goals exact length ▸ .throw _
  | mix =>
      rcases same with _ | ⟨_, _ | ⟨_, _ | ⟨_, _ | ⟨_, more⟩⟩⟩⟩
      case cons.cons.cons.nil =>
        refine fresh.bind fun _ _ _ => .pure fun like _ ids all => ?_
        obtain _ | ⟨lefts, _ | ⟨rights, _ | ⟨factors, _⟩⟩⟩ := all
        exact .mix ids lefts rights factors
      all_goals exact length ▸ .throw _

mutual

/-- By induction on the description. -/
theorem build : (description : NodeDescription) →
    Matches Nodes description.build description.plain.build
  | .physicalContext name child => by
      unfold NodeDescription.plain
      cases known : PhysicalScope.ofName? name with
      | none =>
          have unknown : PhysicalScope.parse name = .error (.unknownScope name) := by
            rw [PhysicalScope.parse, known]
          unfold NodeDescription.build
          rw [unknown]
          exact .throw _
      | some scope =>
          have parsed : PhysicalScope.parse name = .ok scope := by
            rw [PhysicalScope.parse, known]
          dsimp only
          unfold NodeDescription.build
          rw [parsed]
          exact wrap scope (build child)
  | .context values child type => by
      refine (buildValues values).bind fun _ _ _ => (build child).bind fun _ _ _ => ?_
      exact fresh.bind fun _ _ _ => .pure fun _ _ ids inside installed =>
        .context ids installed inside
  | .expression snippet type => by
      unfold NodeDescription.plain NodeDescription.build
      split
      · exact .throw _
      · exact fresh.bind fun _ _ _ => .pure fun _ _ ids => .expression ids fun _ => rfl
  | .float value isConst => fresh.bind fun _ _ _ => .pure fun _ _ ids => .float ids
  | .normal name => .lift _ fun space => fresh.bind fun _ _ _ => .pure fun _ _ ids => .normal ids
  | .contextValue key fallback =>
      (build fallback).bind fun _ _ _ => fresh.bind fun _ _ _ => .pure fun _ covers ids inside =>
        .reader ids (covers.keys key) inside
  | .environmentSample texture =>
      fresh.bind fun _ _ _ => .pure fun _ covers ids =>
        .sample ids (covers.keys uvKey) (covers.keys roughnessKey)
  | .math name inputs =>
      .lift _ fun operation => (buildInputs inputs).bind fun _ _ some => apply operation some

/-- Described overrides match those in which every physical context is written out. -/
theorem buildValues : (values : List (String × NodeDescription)) →
    Matches Entries (NodeDescription.buildValues values)
      (NodeDescription.buildValues (NodeDescription.plainValues values))
  | [] => .pure fun _ _ => .nil
  | (_, value) :: rest =>
      ((build value).adapt _).bind fun _ _ _ => (buildValues rest).bind fun _ _ _ =>
        .pure fun _ _ later inside => .cons (.node inside) later

/-- Described inputs match those in which every physical context is written out. -/
theorem buildInputs : (inputs : List NodeDescription) →
    Matches (fun like => List.Forall₂ like.Nodes) (NodeDescription.buildInputs inputs)
      (NodeDescription.buildInputs (NodeDescription.plainInputs inputs))
  | [] => .pure fun _ _ => .nil
  | input :: rest =>
      (build input).bind fun _ _ _ => (buildInputs rest).bind fun _ _ _ =>
        .pure fun _ _ later inside => .cons inside later

end

end Likeness.Matches

/-! ### Their builds -/

/-- The same local without its owner. -/
def LocalVariable.anonymous (declared : LocalVariable) : LocalVariable :=
  { declared with owner := 0 }

/-- The fragment as its module shows it, where locals have no owners. -/
def Fragment.anonymous (fragment : Fragment) : Fragment :=
  { fragment with locals := fragment.locals.map LocalVariable.anonymous }

/-- The same error about a node without an id. -/
def GenerationError.anonymous : GenerationError → GenerationError
  | .unusable node output cause => .unusable ⟨node.label, 0⟩ output cause
  | error => error

def Outcome.anonymous : Outcome Fragment → Outcome Fragment
  | .done fragment => .done fragment.anonymous
  | .aborted (.failed error) => .aborted (.failed error.anonymous)
  | ending => ending

namespace Likeness

variable {like : Likeness}

/-- Like locals are equal up to their owners. -/
theorem locals_anonymous {left right : List LocalVariable}
    (locals : List.Forall₂ like.Locals left right) :
    left.map LocalVariable.anonymous = right.map LocalVariable.anonymous := by
  induction locals with
  | nil => rfl
  | cons same rest ih =>
      rw [List.map_cons, List.map_cons, ih]
      unfold LocalVariable.anonymous
      rw [same.name, same.type, same.initializer]

/-- Like fragments are equal up to the owners of their locals, where texts count. -/
theorem Fragments.anonymous_eq (counts : like.texts) {left right : Fragment}
    (same : like.Fragments left right) : left.anonymous = right.anonymous := by
  unfold Fragment.anonymous
  rw [same.expression.eq counts, locals_anonymous same.locals, same.textures, same.source counts]

/-- Like outcomes are equal up to owners and ids, where texts count. -/
theorem Outcomes.anonymous_eq (counts : like.texts) {left right : Outcome Fragment}
    (same : like.Outcomes like.Fragments left right) : left.anonymous = right.anonymous := by
  cases same with
  | done fragments => exact congrArg Outcome.done (fragments.anonymous_eq counts)
  | failed errors =>
      cases errors with
      | coercion | notFinite | badCoordinate | dimensionClash | unusable => rfl
  | exhausted => rfl

end Likeness

theorem compile_plain (custom : Empty → NodeId → ValueType → Program Empty Host TypedTerm)
    (fuel : Nat) (graph : GraphDescription) (config : Config) (output : ValueType)
    (start other : NodeId) (host : Host) :
    (graph.compile custom fuel output start (.ofConfig config host)).map Outcome.anonymous =
      (graph.plain.compile custom fuel output other (.ofConfig config host)).map
        Outcome.anonymous := by
  have pairing := Likeness.Matches.build graph.root start other
  unfold GraphDescription.compile GraphDescription.buildRoot GraphDescription.plain
  dsimp only
  generalize graph.root.build.run start = before at pairing ⊢
  generalize graph.root.plain.build.run other = behind at pairing ⊢
  cases pairing with
  | error cause after later => rfl
  | ok pairs lefts rights same =>
      have nodes := same _ (Likeness.ofPairs_covers pairs lefts.nodup rights.nodup)
      have built := Likeness.Actions.build (nodes.generate custom custom fuel output)
        (.ofConfig config host) (.ofConfig config host) (.inl rfl) fun _ _ => .none
      exact congrArg Except.ok (built.outcomes.anonymous_eq trivial)

/-- A graph compiles to what it compiles to with contexts in place of its physical ones: it fails for
the same cause, or gives the same fragment. A tree under radiance within irradiance reads the roughness
of the surface, and still samples in the direction of its normal. -/
theorem physical_contexts_are_contexts
    (custom : Empty → NodeId → ValueType → Program Empty Host TypedTerm) (fuel : Nat)
    (graph : GraphDescription) (config : Config) (output : ValueType) (start other : NodeId)
    (host : Host) :
    (graph.compile custom fuel output start (.ofConfig config host)).map Outcome.anonymous =
      (graph.plain.compile custom fuel output other (.ofConfig config host)).map
        Outcome.anonymous ∧
    ∀ child : NodeDescription,
      let nested := NodeDescription.physicalContext "irradiance" (.physicalContext "radiance" child)
      let built : Except ConstructionError (Node Empty) × NodeId := child.build.run start
      let inner := PhysicalScope.radiance.frame built.2
      let outer := PhysicalScope.irradiance.frame (built.2 + 2)
      (nested.build.run start).1 = built.1.map (fun tree =>
          .context (built.2 + 4) (some .vec3) outer
            (.context (built.2 + 1) (some .vec3) inner tree)) ∧
        ∀ frames : Frames Empty,
          Frames.find? uvKey (inner :: outer :: frames) =
              some (.node (.normal (built.2 + 3) .world)) ∧
            Frames.find? roughnessKey (inner :: outer :: frames) =
              some (.node (.expression built.2 roughnessFactor .f32)) := by
  refine ⟨compile_plain custom fuel graph config output start other host, fun child => ?_⟩
  intro nested built inner outer
  refine ⟨?_, fun frames => ⟨rfl, rfl⟩⟩
  have wraps := NodeDescription.run_physicalContext .irradiance (.physicalContext "radiance" child) start
  have inside := NodeDescription.run_physicalContext .radiance child start
  change nested.build.run start = _ at wraps
  change (NodeDescription.physicalContext "radiance" child).build.run start = _ at inside
  rw [wraps, inside]
  dsimp only [built, inner, outer]
  rcases child.build.run start with ⟨cause | tree, next⟩ <;> rfl

end ShadeTree
