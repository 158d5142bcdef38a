import ShadeTree.Proofs.Config.Accepted
import ShadeTree.Proofs.Description.Build
import ShadeTree.Proofs.Generation.Conversion
import ShadeTree.Proofs.Generation.Refusal
import ShadeTree.Proofs.Generation.Termination

/-!
Well-typed trees compile.

The types that nodes declare are those of what they are asked for, although a reader may be answered
by a value of any other type: the answer is converted. So what can be seen from the declared types
alone keeps every conversion and every sample on the way from failing.
-/

namespace ShadeTree

open Number

/-! ### Types that go together -/

/-- Operands of these types get one type: they have it already, or one of them is a scalar. -/
def ValueType.Fits (left right : ValueType) : Prop :=
  left = right ∨ left = .f32 ∨ right = .f32

/-- No type but a matrix is promoted to a matrix. -/
theorem ValueType.promoted_ne_mat4 {left right : ValueType} (first : left ≠ .mat4)
    (second : right ≠ .mat4) : left.promoted right ≠ .mat4 := by
  unfold promoted
  split
  · exact second
  · exact first

namespace TypedTerm

/-- Between scalars and vectors every conversion is possible. -/
theorem coerce_ok {expression : TypedTerm} {target : ValueType} (scalar : expression.type ≠ .mat4)
    (wanted : target ≠ .mat4) : ∃ result, expression.coerce target = .ok result := by
  obtain ⟨type, term, isConst⟩ := expression
  cases type <;> cases target <;> simp_all [coerce, splat]

/-- Operands that fit and are no matrices have a common type. -/
theorem unify_ok {left right : TypedTerm} (fits : left.type.Fits right.type)
    (first : left.type ≠ .mat4) (second : right.type ≠ .mat4) :
    ∃ result, left.unify right = .ok result := by
  obtain ⟨type, term, isConst⟩ := left
  obtain ⟨other, otherTerm, otherConst⟩ := right
  cases type <;> cases other <;>
    simp_all [unify, splat, ValueType.Fits, ValueType.isVector, Except.map]

end TypedTerm

/-! ### Well-typed supplies -/

/-- The coordinates that contexts install are of the given types. -/
def Supply.Addresses (supply : Supply Empty) (types : ValueType → Prop) : Prop :=
  ∀ id type overrides child, supply.has (.node (.context id type overrides child)) →
    ∀ entry ∈ overrides, entry.1 = uvKey → types entry.2.type

/-- What can be seen from the nodes: their declared types are no matrices, numbers are finite, operands
fit together, and coordinates address planes or cubes. -/
structure Supply.WellTyped (supply : Supply Empty) : Prop where
  expressions : ∀ id snippet type, supply.has (.node (.expression id snippet type)) → type ≠ .mat4
  contexts : ∀ id type overrides child,
    supply.has (.node (.context id (some type) overrides child)) → type ≠ .mat4
  numbers : ∀ id value isConst, supply.has (.node (.float id value isConst)) → value.isFinite
  operands : ∀ node left right, supply.has (.node node) → node.pair? = some (left, right) →
    left.type.Fits right.type
  coordinates : supply.Addresses fun type => type = .vec2 ∨ type = .vec3

namespace Supply

variable {supply : Supply Empty}

/-- By recursion on the node, along the nodes that its type comes from. -/
theorem WellTyped.node_type (typed : supply.WellTyped) :
    (node : Node Empty) → supply.has (.node node) → node.type ≠ .mat4
  | .expression id snippet type, supplied => typed.expressions id snippet type supplied
  | .float .., _ | .normal .., _ | .sample .., _ => by simp [Node.type]
  | .context id (some type) overrides child, supplied =>
      typed.contexts id type overrides child supplied
  | .context _ none _ child, supplied => typed.node_type child (supply.child supplied)
  | .reader _ _ fallback, supplied => typed.node_type fallback (supply.fallback supplied)
  | .binary _ _ left right, supplied =>
      ValueType.promoted_ne_mat4 (typed.node_type left (supply.operands supplied).1)
        (typed.node_type right (supply.operands supplied).2)
  | .mix _ left right _, supplied =>
      ValueType.promoted_ne_mat4 (typed.node_type left (supply.mixed supplied).1)
        (typed.node_type right (supply.mixed supplied).2.1)
  | .custom _ _ _ content, _ => content.elim

/-- The operands of a supplied operation are supplied. -/
theorem pair_supplied {node left right : Node Empty} (supplied : supply.has (.node node))
    (pair : node.pair? = some (left, right)) : supply.has (.node left) ∧ supply.has (.node right) := by
  cases node with
  | binary id operation first second =>
      cases pair
      exact supply.operands supplied
  | mix id first second factor =>
      cases pair
      exact ⟨(supply.mixed supplied).1, (supply.mixed supplied).2.1⟩
  | expression | float | normal | context | reader | sample | custom => cases pair

end Supply

/-! ### Builders in which well-typed trees are generated -/

/-- The values of the frames are supplied, coordinates of the given types among them, and samples have
a level. -/
structure Builder.Ready (supply : Supply Empty) (types : ValueType → Prop) (builder : Builder Empty) :
    Prop where
  covers : supply.Covers builder.frames
  addressed : ∀ frame ∈ builder.frames, ∀ entry ∈ frame, entry.1 = uvKey → types entry.2.type
  level : builder.config.envMaxMip.isFinite

namespace Builder.Ready

variable {supply : Supply Empty} {types : ValueType → Prop} {builder later : Builder Empty}

/-- A builder that has grown is still ready. -/
theorem of_extends (ready : builder.Ready supply types) (extends_ : later.Extends builder) :
    later.Ready supply types where
  covers := extends_.frames ▸ ready.covers
  addressed := extends_.frames ▸ ready.addressed
  level := extends_.config ▸ ready.level

/-- A ready builder is ready inside the scope of a supplied context. -/
theorem enter (ready : builder.Ready supply types) (addresses : supply.Addresses types)
    {id : NodeId} {type : Option ValueType} {overrides : Frame Empty} {child : Node Empty}
    (supplied : supply.has (.node (.context id type overrides child))) :
    (builder.enter overrides).Ready supply types where
  covers := ready.covers.cons (supply.override supplied)
  addressed frame member := by
    rcases List.mem_cons.mp member with rfl | outer
    · exact addresses id type frame child supplied
    · exact ready.addressed frame outer
  level := ready.level

/-- The coordinate that a ready builder finds has an admitted type. -/
theorem found (ready : builder.Ready supply types) {value : Value Empty}
    (found : builder.find? uvKey = some value) : types value.type := by
  obtain ⟨frame, member, inside⟩ := Frames.mem_of_find found
  exact ready.addressed frame member (uvKey, value) inside rfl

/-- Without an override a sample takes the coordinate of the input, which addresses a plane. -/
theorem coordinateType (ready : builder.Ready supply types) (plane : types .vec2) :
    types builder.frames.coordinateType := by
  unfold Frames.coordinateType
  cases found : builder.frames.find? uvKey with
  | some value => exact ready.found found
  | none => exact plane

end Builder.Ready

/-- What is demanded is supplied. -/
def Demand.Supplied (supply : Supply Empty) : Demand → Prop
  | .raw tree _ | .node tree _ => supply.has (.node tree)
  | .value found _ => supply.has found
  | .coordinate | .roughness => True

/-- What is demanded is no matrix. -/
def Demand.Plain : Demand → Prop
  | .raw _ output | .node _ output | .value _ output => output ≠ .mat4
  | .coordinate | .roughness => True

section

variable {supply : Supply Empty} {builder after : Builder Empty} {demand : Demand}
  {types : ValueType → Prop} {expression : TypedTerm} {error : GenerationError}

/-- What a node gives before it is converted is no matrix either. -/
theorem Generates.raw_type (typed : supply.WellTyped) {node : Node Empty} {output : ValueType}
    (generates : Generates supply builder (.raw node output) expression after)
    (supplied : supply.has (.node node)) (plain : output ≠ .mat4) : expression.type ≠ .mat4 := by
  have operands {left right : Node Empty} {first second firstOperand secondOperand : TypedTerm}
      {type : ValueType} {start middle last : Builder Empty}
      (pair : node.pair? = some (left, right))
      (leftDone : Generates supply start (.node left left.type) first middle)
      (rightDone : Generates supply middle (.node right right.type) second last)
      (unified : first.unify second = .ok (firstOperand, secondOperand, type)) : type ≠ .mat4 := by
    obtain ⟨leftSupplied, rightSupplied⟩ := Supply.pair_supplied supplied pair
    have firstType := leftDone.type_eq ▸ typed.node_type left leftSupplied
    have secondType := rightDone.type_eq ▸ typed.node_type right rightSupplied
    obtain ⟨_, rfl, _⟩ | ⟨_, _, rfl, _⟩ | ⟨_, _, rfl, _⟩ := TypedTerm.unify_converts unified
    · exact firstType
    · exact secondType
    · exact firstType
  cases generates with
  | expression => exact typed.expressions _ _ _ supplied
  | inlined | declared | normal | sample => simp
  | context inside => exact inside.type_eq ▸ plain
  | override found inside => exact inside.value_type_eq ▸ plain
  | fallback missing inside => exact inside.type_eq ▸ plain
  | binary leftDone rightDone unified => exact operands rfl leftDone rightDone unified
  | mix leftDone rightDone unified factorDone => exact operands rfl leftDone rightDone unified

/-- Only a texture of two dimensions can keep a well-typed tree from being generated. By induction on
the derivation of the error. -/
theorem Refuses.clash_of_wellTyped (typed : supply.WellTyped)
    (literals : ∀ snippet, supply.has (.literal snippet) → snippet.type ≠ .mat4)
    (refuses : Refuses supply builder demand error after) (supplied : demand.Supplied supply)
    (plain : demand.Plain)
    (ready : builder.Ready supply fun type => type = .vec2 ∨ type = .vec3) :
    ∃ clash, error = .dimensionClash clash := by
  induction refuses with
  | @number builder id value isConst output unwritten =>
      have finite := typed.numbers id value isConst supplied
      simp [Single.literal?, finite] at unwritten
  | context inside ih => exact ih (supply.child supplied) plain (ready.enter typed.coordinates supplied)
  | override found inside ih => exact ih (ready.covers.found found) plain ready
  | fallback missing inside ih => exact ih (supply.fallback supplied) plain ready
  | coordinate inside ih => exact ih trivial trivial ready
  | dimension addressed unaddressed =>
      have type := ready.coordinateType (.inl rfl)
      rw [← addressed.coordinate_type] at type
      rcases type with type | type <;> rw [type] at unaddressed <;> cases unaddressed
  | roughness addressed inside ih => exact ih trivial trivial (ready.of_extends addressed.extends)
  | level addressed blurred unwritten =>
      have finite := (ready.of_extends (blurred.extends.trans addressed.extends)).level
      simp [Single.literal?, finite] at unwritten
  | clash => exact ⟨_, rfl⟩
  | left pair inside ih =>
      obtain ⟨leftSupplied, _⟩ := Supply.pair_supplied supplied pair
      exact ih leftSupplied (typed.node_type _ leftSupplied) ready
  | right pair leftDone inside ih =>
      obtain ⟨_, rightSupplied⟩ := Supply.pair_supplied supplied pair
      exact ih rightSupplied (typed.node_type _ rightSupplied) (ready.of_extends leftDone.extends)
  | incompatible pair leftDone rightDone apart =>
      obtain ⟨leftSupplied, rightSupplied⟩ := Supply.pair_supplied supplied pair
      have fits := typed.operands _ _ _ supplied pair
      rw [← leftDone.type_eq, ← rightDone.type_eq] at fits
      obtain ⟨result, unified⟩ := TypedTerm.unify_ok fits
        (leftDone.type_eq ▸ typed.node_type _ leftSupplied)
        (rightDone.type_eq ▸ typed.node_type _ rightSupplied)
      cases apart.symm.trans unified
  | factor leftDone rightDone inside ih =>
      have around := rightDone.extends.trans leftDone.extends
      exact ih (supply.mixed supplied).2.2 (by simp [Demand.Plain]) (ready.of_extends around)
  | passed inside ih => exact ih supplied plain ready
  | unusable inside refused =>
      obtain ⟨result, converted⟩ :=
        TypedTerm.coerce_ok (inside.raw_type typed supplied plain) plain
      cases refused.symm.trans converted
  | tree inside ih => exact ih supplied plain ready
  | @literal builder snippet output cause refused =>
      have scalar : snippet.typed.type ≠ .mat4 := literals snippet supplied
      obtain ⟨result, converted⟩ := TypedTerm.coerce_ok scalar plain
      cases refused.symm.trans converted
  | @redirected builder after value error found inside ih =>
      have type : value.type ≠ .mat4 := by
        rcases ready.found found with type | type <;> simp [type]
      exact ih (ready.covers.found found) type ready
  | rough found inside ih =>
      exact ih (ready.covers.found found) (by simp [Demand.Plain]) ready

/-- If every coordinate addresses a plane, only planes are registered. -/
theorem Generates.planar (addresses : supply.Addresses (· = .vec2))
    (generates : Generates supply builder demand expression after)
    (supplied : demand.Supplied supply) (ready : builder.Ready supply (· = .vec2))
    (before : ∀ binding ∈ builder.textures, binding.dimension = .plane) :
    ∀ binding ∈ after.textures, binding.dimension = .plane := by
  induction generates with
  | expression | inlined | normal | literal | input | smooth => exact before
  | @declared builder id value output text _ _ =>
      have textures : (builder.declareLocal id .f32 text).2.textures = builder.textures := by
        obtain ⟨_, _, _, equal⟩ | ⟨_, equal⟩ := builder.declareLocal_spec id .f32 text <;> rw [equal]
      exact textures ▸ before
  | context inside ih => exact ih (supply.child supplied) (ready.enter addresses supplied) before
  | override found inside ih => exact ih (ready.covers.found found) ready before
  | fallback missing inside ih => exact ih (supply.fallback supplied) ready before
  | @sample builder first second last id texture output coordinate roughness dimension index _
      addressed dimensioned blurred _ registered ih₁ ih₂ =>
      have middle := ih₂ trivial (ready.of_extends addressed.extends) (ih₁ trivial ready before)
      have plane : dimension = .plane := by
        rw [addressed.coordinate_type, ready.coordinateType rfl] at dimensioned
        exact (Option.some.inj dimensioned).symm
      obtain ⟨_, rfl⟩ | ⟨_, rfl⟩ := Builder.registerTexture_spec registered
      · exact middle
      · intro binding member
        rcases List.mem_append.mp member with old | new
        · exact middle binding old
        · rw [List.mem_singleton.mp new]
          exact plane
  | binary leftDone rightDone unified ih₁ ih₂ =>
      obtain ⟨leftSupplied, rightSupplied⟩ := supply.operands supplied
      exact ih₂ rightSupplied (ready.of_extends leftDone.extends) (ih₁ leftSupplied ready before)
  | mix leftDone rightDone unified factorDone ih₁ ih₂ ih₃ =>
      obtain ⟨leftSupplied, rightSupplied, factorSupplied⟩ := supply.mixed supplied
      have middle := ih₂ rightSupplied (ready.of_extends leftDone.extends)
        (ih₁ leftSupplied ready before)
      exact ih₃ factorSupplied (ready.of_extends (rightDone.extends.trans leftDone.extends)) middle
  | converted inside conversion ih | tree inside ih => exact ih supplied ready before
  | redirected found inside ih | rough found inside ih =>
      exact ih (ready.covers.found found) ready before

/-- If every coordinate addresses a plane, no texture has two dimensions. -/
theorem Refuses.ne_clash (addresses : supply.Addresses (· = .vec2))
    (refuses : Refuses supply builder demand error after) (supplied : demand.Supplied supply)
    (ready : builder.Ready supply (· = .vec2))
    (before : ∀ binding ∈ builder.textures, binding.dimension = .plane) (clash : DimensionClash) :
    error ≠ .dimensionClash clash := by
  induction refuses with
  | number | dimension | level | incompatible | unusable | literal => simp
  | context inside ih => exact ih (supply.child supplied) (ready.enter addresses supplied) before
  | override found inside ih => exact ih (ready.covers.found found) ready before
  | fallback missing inside ih => exact ih (supply.fallback supplied) ready before
  | coordinate inside ih => exact ih trivial ready before
  | roughness addressed inside ih =>
      exact ih trivial (ready.of_extends addressed.extends)
        (addressed.planar addresses trivial ready before)
  | clash addressed dimensioned blurred clashes =>
      have middle := blurred.planar addresses trivial (ready.of_extends addressed.extends)
        (addressed.planar addresses trivial ready before)
      obtain ⟨registered, different, known, _⟩ := Builder.registerTexture_clash clashes
      rw [addressed.coordinate_type, ready.coordinateType rfl] at dimensioned
      exact absurd ((middle _ known).trans (Option.some.inj dimensioned)) different
  | left pair inside ih => exact ih (Supply.pair_supplied supplied pair).1 ready before
  | right pair leftDone inside ih =>
      obtain ⟨leftSupplied, rightSupplied⟩ := Supply.pair_supplied supplied pair
      exact ih rightSupplied (ready.of_extends leftDone.extends)
        (leftDone.planar addresses leftSupplied ready before)
  | factor leftDone rightDone inside ih =>
      obtain ⟨leftSupplied, rightSupplied, factorSupplied⟩ := supply.mixed supplied
      have middle := rightDone.planar addresses rightSupplied (ready.of_extends leftDone.extends)
        (leftDone.planar addresses leftSupplied ready before)
      exact ih factorSupplied (ready.of_extends (rightDone.extends.trans leftDone.extends)) middle
  | passed inside ih | tree inside ih => exact ih supplied ready before
  | redirected found inside ih | rough found inside ih =>
      exact ih (ready.covers.found found) ready before

end

/-! ### Builds -/

/-- The end of a build, if only a texture of two dimensions can keep it from a fragment. -/
def Outcome.ofFragment : Except DimensionClash Fragment → Outcome Fragment
  | .ok fragment => .done fragment
  | .error clash => .aborted (.failed (.dimensionClash clash))

/-- A well-typed tree with acyclic keys is compiled on a builder without frames, whatever its readers
come across, unless a texture is sampled under both dimensions. That does not happen either if every
coordinate in the tree addresses a plane. -/
theorem wellTyped_tree_compiles {Host Rank : Type} [Preorder Rank] (rank : String → Rank)
    (custom : Empty → NodeId → ValueType → Program Empty Host TypedTerm) (root : Node Empty)
    (output : ValueType) (start : Machine Empty Host)
    (accepted : start.builder.config.validate = .ok ()) (bare : start.builder.frames = [])
    (typed : (Supply.ofParts [] root).WellTyped)
    (literals : ∀ snippet, (Supply.ofParts [] root).has (.literal snippet) → snippet.type ≠ .mat4)
    (plain : output ≠ .mat4) (ranked : Ranked rank root.installs) :
    ∃ result last,
      (∀ fuel, Call.depth ⟨[], root⟩ ≤ fuel →
        Action.build (generate custom fuel) root output start = (.ofFragment result, last)) ∧
      ((Supply.ofParts [] root).Addresses (· = .vec2) → ∃ fragment, result = .ok fragment) := by
  let supply := Supply.ofParts [] root
  let begun := start.compiling root output
  have supplied : supply.has (.node root) := Supply.ofParts_root [] root
  have ready (types : ValueType → Prop) : begun.builder.Ready supply types := by
    have frames : begun.builder.frames = [] := bare
    constructor
    · rw [frames]
      exact Supply.ofParts_covers [] root
    · simp [frames]
    · exact Config.isFinite_envMaxMip accepted
  have placed : begun.builder.frames = (⟨[], root⟩ : Call).frames := bare
  obtain ⟨result, last, ends⟩ := generate_ends ranked custom output placed
  cases result with
  | ok expression =>
      let fragment := last.builder.assemble expression
      let event := Event.compiled root.name fragment.locals.length fragment.textures.length
      refine ⟨.ok fragment, last.note event, fun fuel enough => ?_, fun _ => ⟨fragment, rfl⟩⟩
      have ran : generate custom fuel root output ((start.update start.builder.reset).note
          (.compiling root.name output)) = (.done expression, last) := ends fuel enough
      simp only [Action.build, ran]
      rfl
  | error error =>
      have failed := ends _ (Nat.le_refl _)
      have refuses : Refuses supply begun.builder (.node root output) error last.builder :=
        generate_fails custom supply _ supplied (ready fun _ => True).covers failed
      obtain ⟨clash, rfl⟩ := refuses.clash_of_wellTyped typed literals supplied plain (ready _)
      refine ⟨.error clash, last.update last.builder.reset, fun fuel enough => ?_, fun planes => ?_⟩
      · have ran : generate custom fuel root output ((start.update start.builder.reset).note
            (.compiling root.name output)) = (.aborted (.failed (.dimensionClash clash)), last) :=
          ends fuel enough
        simp only [Action.build, ran]
        rfl
      · have empty : ∀ binding ∈ begun.builder.textures, binding.dimension = .plane := by
          intro binding member
          cases member
        exact absurd rfl (refuses.ne_clash planes supplied (ready _) empty clash)

/-- A graph is compiled if its tree is well-typed and its keys are acyclic, whatever its readers come
across and whatever the types of that are: only a texture that is sampled under both dimensions can
keep it from that, and not even this if every coordinate in the tree addresses a plane. -/
theorem wellTyped_compiles {Host Rank : Type} [Preorder Rank] (rank : String → Rank)
    (custom : Empty → NodeId → ValueType → Program Empty Host TypedTerm) (graph : GraphDescription)
    (next : NodeId) (root : Node Empty) (built : (graph.buildRoot next).1 = .ok root)
    (output : ValueType) (start : Machine Empty Host)
    (accepted : start.builder.config.validate = .ok ()) (bare : start.builder.frames = [])
    (typed : (Supply.ofParts [] root).WellTyped) (plain : output ≠ .mat4)
    (ranked : Ranked rank root.installs) :
    ∃ result last,
      (∀ fuel, Call.depth ⟨[], root⟩ ≤ fuel →
        Action.build (generate custom fuel) root output start = (.ofFragment result, last)) ∧
      ((Supply.ofParts [] root).Addresses (· = .vec2) → ∃ fragment, result = .ok fragment) := by
  have literalless := GraphDescription.buildRoot_literalless built
  apply wellTyped_tree_compiles rank custom root output start accepted bare typed ?_ plain ranked
  intro snippet supplied
  have inside : .literal snippet ∈ root.parts := by
    simpa [Supply.ofParts, Frames.partsWith] using supplied
  exact absurd inside (literalless snippet)

/-- A product whose scalar is answered by a sample, at a coordinate that is an override itself. -/
def veilGraph : GraphDescription :=
  ⟨"1", ⟨"veil", none, none⟩, .vec4,
    .context
      [("tint", .environmentSample "haze"), (uvKey, .expression "flow(position)" .vec2)]
      (.math "mul" [.environmentSample "sky",
        .contextValue "tint" (.float (Single.ofWord 0x3f000000) true)])
      (some .vec3)⟩

def veilTree : Node Empty :=
  .context 6 (some .vec3)
    [("tint", .node (.sample 0 "haze")), (uvKey, .node (.expression 1 "flow(position)" .vec2))]
    (.binary 5 .multiply (.sample 2 "sky")
      (.reader 4 "tint" (.float 3 (Single.ofWord 0x3f000000) true)))

theorem veilTree_parts {value : Value Empty} (part : (Supply.ofParts [] veilTree).has value) :
    let half : Node Empty := .float 3 (Single.ofWord 0x3f000000) true
    value ∈ [.node veilTree, .node (.sample 0 "haze"), .node (.expression 1 "flow(position)" .vec2),
      .node (.binary 5 .multiply (.sample 2 "sky") (.reader 4 "tint" half)), .node (.sample 2 "sky"),
      .node (.reader 4 "tint" half), .node half] := by
  simpa [Supply.ofParts, Frames.partsWith, veilTree, Node.parts, Value.parts, Value.partsAll] using part

/-- The veil only redirects coordinates to pairs. -/
theorem veilTree_addresses : (Supply.ofParts [] veilTree).Addresses (· = .vec2) := by
  intro id type overrides child supplied entry member coordinate
  have known := veilTree_parts supplied
  simp [veilTree] at known
  obtain ⟨rfl, rfl, rfl, rfl⟩ := known
  simp at member
  rcases member with rfl | rfl
  · exact absurd coordinate (by decide)
  · rfl

/-- The types in the veil fit. -/
theorem veilTree_wellTyped : (Supply.ofParts [] veilTree).WellTyped := by
  constructor
  · intro id snippet type supplied
    have known := veilTree_parts supplied
    simp [veilTree] at known
    simp [known]
  · intro id type overrides child supplied
    have known := veilTree_parts supplied
    simp [veilTree] at known
    simp [known]
  · intro id value isConst supplied
    have known := veilTree_parts supplied
    simp [veilTree] at known
    obtain ⟨_, rfl, _⟩ := known
    decide
  · intro node left right supplied pair
    have known := veilTree_parts supplied
    simp only [List.mem_cons, Value.node.injEq, List.not_mem_nil, or_false] at known
    rcases known with rfl | rfl | rfl | rfl | rfl | rfl | rfl <;> cases pair
    exact .inr (.inr rfl)
  · exact fun id type overrides child supplied entry member coordinate =>
      .inl (veilTree_addresses id type overrides child supplied entry member coordinate)

def veilRank (key : String) : Nat :=
  if key = "tint" then 1 else 0

/-- The veil compiles, and no failure is possible for it. -/
theorem veilTree_compiles :
    let start : Machine Empty Unit := ⟨Builder.ofConfig .default, (), []⟩
    (veilGraph.buildRoot 0).1 = .ok veilTree ∧ start.builder.config.validate = .ok () ∧
      (Supply.ofParts [] veilTree).WellTyped ∧
      Ranked veilRank veilTree.installs ∧ (Supply.ofParts [] veilTree).Addresses (· = .vec2) ∧
      ∃ fragment last, ∀ fuel, Call.depth ⟨[], veilTree⟩ ≤ fuel →
        Action.build (generate nofun fuel) veilTree .vec4 start = (.done fragment, last) := by
  intro start
  have built : (veilGraph.buildRoot 0).1 = .ok veilTree := rfl
  have accepted : Config.default.validate = .ok () := rfl
  have ranked : Ranked veilRank veilTree.installs := by
    unfold Ranked
    decide
  obtain ⟨result, last, ends, compiles⟩ := wellTyped_compiles veilRank nofun veilGraph 0
    veilTree built .vec4 start accepted rfl veilTree_wellTyped (by decide) ranked
  obtain ⟨fragment, rfl⟩ := compiles veilTree_addresses
  exact ⟨built, accepted, veilTree_wellTyped, ranked, veilTree_addresses, fragment, last, ends⟩

end ShadeTree
