import ShadeTree.Proofs.Generation.Soundness

/-!
How the generation of a tree of built-in nodes fails.

A failure has one place, up to which everything is derived: a number that is not finite, a coordinate
of the wrong type, a texture of two dimensions, two operands without a common type, or a result that
cannot be converted. From there the error is passed on as it is.
-/

namespace ShadeTree

open Number

/-- The first two operands, which get one type. -/
def Node.pair? : Node Empty → Option (Node Empty × Node Empty)
  | .binary _ _ left right | .mix _ left right _ => some (left, right)
  | _ => none

/-- The error that a builder gives for a demand, and the builder afterwards. -/
inductive Refuses (supply : Supply Empty) :
    Builder Empty → Demand → GenerationError → Builder Empty → Prop
  | number {builder : Builder Empty} {id : NodeId} {value : Single} {isConst : Bool}
      {output : ValueType} (unwritten : value.literal? = none) :
      Refuses supply builder (.raw (.float id value isConst) output) (.notFinite value) builder
  | context {builder after : Builder Empty} {id : NodeId} {type : Option ValueType}
      {overrides : Frame Empty} {child : Node Empty} {output : ValueType} {error : GenerationError}
      (inside : Refuses supply (builder.enter overrides) (.node child output) error after) :
      Refuses supply builder (.raw (.context id type overrides child) output) error
        (after.leave builder)
  | override {builder after : Builder Empty} {id : NodeId} {key : String} {fallback : Node Empty}
      {output : ValueType} {value : Value Empty} {error : GenerationError}
      (found : builder.find? key = some value)
      (inside : Refuses supply builder (.value value output) error after) :
      Refuses supply builder (.raw (.reader id key fallback) output) error after
  | fallback {builder after : Builder Empty} {id : NodeId} {key : String} {fallback : Node Empty}
      {output : ValueType} {error : GenerationError} (missing : builder.find? key = none)
      (inside : Refuses supply builder (.node fallback output) error after) :
      Refuses supply builder (.raw (.reader id key fallback) output) error after
  | coordinate {builder after : Builder Empty} {id : NodeId} {texture : String} {output : ValueType}
      {error : GenerationError} (inside : Refuses supply builder .coordinate error after) :
      Refuses supply builder (.raw (.sample id texture) output) error after
  | dimension {builder after : Builder Empty} {id : NodeId} {texture : String} {output : ValueType}
      {coordinate : TypedTerm} (addressed : Generates supply builder .coordinate coordinate after)
      (unaddressed : Dimension.ofCoordinate? coordinate.type = none) :
      Refuses supply builder (.raw (.sample id texture) output) (.badCoordinate coordinate.type) after
  | roughness {builder first after : Builder Empty} {id : NodeId} {texture : String}
      {output : ValueType} {coordinate : TypedTerm} {error : GenerationError}
      (addressed : Generates supply builder .coordinate coordinate first)
      (inside : Refuses supply first .roughness error after) :
      Refuses supply builder (.raw (.sample id texture) output) error after
  | level {builder first second : Builder Empty} {id : NodeId} {texture : String} {output : ValueType}
      {coordinate roughness : TypedTerm}
      (addressed : Generates supply builder .coordinate coordinate first)
      (blurred : Generates supply first .roughness roughness second)
      (unwritten : second.config.envMaxMip.literal? = none) :
      Refuses supply builder (.raw (.sample id texture) output) (.notFinite second.config.envMaxMip)
        second
  | clash {builder first second : Builder Empty} {id : NodeId} {texture : String} {output : ValueType}
      {coordinate roughness : TypedTerm} {dimension : Dimension} {clash : DimensionClash}
      (addressed : Generates supply builder .coordinate coordinate first)
      (dimensioned : Dimension.ofCoordinate? coordinate.type = some dimension)
      (blurred : Generates supply first .roughness roughness second)
      (clashes : second.registerTexture texture dimension = .error clash) :
      Refuses supply builder (.raw (.sample id texture) output) (.dimensionClash clash) second
  | left {builder after : Builder Empty} {node left right : Node Empty} {output : ValueType}
      {error : GenerationError} (pair : node.pair? = some (left, right))
      (inside : Refuses supply builder (.node left left.type) error after) :
      Refuses supply builder (.raw node output) error after
  | right {builder middle after : Builder Empty} {node left right : Node Empty} {output : ValueType}
      {first : TypedTerm} {error : GenerationError} (pair : node.pair? = some (left, right))
      (leftDone : Generates supply builder (.node left left.type) first middle)
      (inside : Refuses supply middle (.node right right.type) error after) :
      Refuses supply builder (.raw node output) error after
  | incompatible {builder middle after : Builder Empty} {node left right : Node Empty}
      {output : ValueType} {first second : TypedTerm} {cause : CoercionError}
      (pair : node.pair? = some (left, right))
      (leftDone : Generates supply builder (.node left left.type) first middle)
      (rightDone : Generates supply middle (.node right right.type) second after)
      (apart : first.unify second = .error cause) :
      Refuses supply builder (.raw node output) (.coercion cause) after
  | factor {builder middle later after : Builder Empty} {id : NodeId} {left right factor : Node Empty}
      {output : ValueType} {first second : TypedTerm} {error : GenerationError}
      (leftDone : Generates supply builder (.node left left.type) first middle)
      (rightDone : Generates supply middle (.node right right.type) second later)
      (inside : Refuses supply later (.node factor .f32) error after) :
      Refuses supply builder (.raw (.mix id left right factor) output) error after
  | passed {builder after : Builder Empty} {node : Node Empty} {output : ValueType}
      {error : GenerationError} (inside : Refuses supply builder (.raw node output) error after) :
      Refuses supply builder (.node node output) error after
  | unusable {builder after : Builder Empty} {node : Node Empty} {output : ValueType}
      {expression : TypedTerm} {cause : CoercionError}
      (inside : Generates supply builder (.raw node output) expression after)
      (refused : expression.coerce output = .error cause) :
      Refuses supply builder (.node node output) (.unusable node.name output cause) after
  | tree {builder after : Builder Empty} {tree : Node Empty} {output : ValueType}
      {error : GenerationError} (inside : Refuses supply builder (.node tree output) error after) :
      Refuses supply builder (.value (.node tree) output) error after
  | literal {builder : Builder Empty} {snippet : Snippet} {output : ValueType} {cause : CoercionError}
      (refused : snippet.typed.coerce output = .error cause) :
      Refuses supply builder (.value (.literal snippet) output) (.coercion cause) builder
  | redirected {builder after : Builder Empty} {value : Value Empty} {error : GenerationError}
      (found : builder.find? uvKey = some value)
      (inside : Refuses supply builder (.value value value.type) error after) :
      Refuses supply builder .coordinate error after
  | rough {builder after : Builder Empty} {value : Value Empty} {error : GenerationError}
      (found : builder.find? roughnessKey = some value)
      (inside : Refuses supply builder (.value value .f32) error after) :
      Refuses supply builder .roughness error after

/-! ### Failing programs of built-in nodes -/

namespace Action

variable {Custom Host α β : Type}

/-- A sequence fails where one of its parts does. -/
theorem bind_eq_failed {action : Action Custom Host α} {next : α → Action Custom Host β}
    {start last : Machine Custom Host} {error : GenerationError} :
    action.bind next start = (.aborted (.failed error), last) ↔
      action start = (.aborted (.failed error), last) ∨
        ∃ answer middle, action start = (.done answer, middle) ∧
          next answer middle = (.aborted (.failed error), last) := by
  unfold bind
  rcases action start with ⟨outcome, middle⟩
  cases outcome with
  | done answer =>
      simp only [Prod.mk.injEq, reduceCtorEq, false_and, false_or, Outcome.done.injEq]
      constructor
      · exact fun fails => ⟨answer, middle, ⟨rfl, rfl⟩, fails⟩
      · rintro ⟨_, _, ⟨rfl, rfl⟩, fails⟩
        exact fails
  | aborted cause | exhausted => simp

end Action

namespace Program

variable {Custom Host : Type} {generateNode : Node Custom → ValueType → Action Custom Host TypedTerm}
  {start last : Machine Custom Host} {error : GenerationError}

/-- Only a number that is not finite has no literal. -/
theorem run_literal_failed {value : Single}
    (fails : (literal value).run generateNode start = (.aborted (.failed error), last)) :
    value.literal? = none ∧ error = .notFinite value ∧ last = start := by
  unfold literal at fails
  cases written : value.literal? with
  | none =>
      rw [written] at fails
      cases fails
      exact ⟨rfl, rfl, rfl⟩
  | some text =>
      rw [written] at fails
      cases fails

/-- A coercion fails with its own error. -/
theorem run_ofCoercion_failed {α : Type} {result : Except CoercionError α}
    (fails : (ofCoercion result).run generateNode start = (.aborted (.failed error), last)) :
    ∃ cause, result = .error cause ∧ error = .coercion cause ∧ last = start := by
  cases result with
  | error cause =>
      cases fails
      exact ⟨cause, rfl, rfl, rfl⟩
  | ok value => cases fails

/-- A registration only fails for a clash of dimensions. -/
theorem run_registerTexture_failed {name : String} {dimension : Dimension}
    (fails : (registerTexture name dimension .done).run generateNode start =
      (.aborted (.failed error), last)) :
    ∃ clash, start.builder.registerTexture name dimension = .error clash ∧
      error = .dimensionClash clash ∧ last = start := by
  simp only [run, Action.bind_done] at fails
  unfold Action.registerTexture at fails
  cases registered : start.builder.registerTexture name dimension with
  | error clash =>
      rw [registered] at fails
      cases fails
      exact ⟨clash, rfl, rfl, rfl⟩
  | ok result =>
      rw [registered] at fails
      cases fails

end Program

section Soundness

variable {Host : Type} {custom : Empty → NodeId → ValueType → Program Empty Host TypedTerm}
  {generateNode : Node Empty → ValueType → Action Empty Host TypedTerm}
  {supply : Supply Empty} {start last : Machine Empty Host} {error : GenerationError}

/-- How the generation of supplied nodes fails agrees with the derivations of errors. -/
def Fails (supply : Supply Empty)
    (generateNode : Node Empty → ValueType → Action Empty Host TypedTerm) : Prop :=
  ∀ {node output start error last}, supply.has (.node node) →
    supply.Covers start.builder.frames →
    generateNode node output start = (.aborted (.failed error), last) →
    Refuses supply start.builder (.node node output) error last.builder

/-- A value that is not generated is refused. -/
theorem Value.refuses (fails : Fails supply generateNode) {value : Value Empty} {output : ValueType}
    (supplied : supply.has value) (covers : supply.Covers start.builder.frames)
    (ends : (value.program output).run generateNode start = (.aborted (.failed error), last)) :
    Refuses supply start.builder (.value value output) error last.builder := by
  cases value with
  | node tree =>
      rw [Value.program, Program.run_generated] at ends
      exact .tree (fails supplied covers ends)
  | literal snippet =>
      obtain ⟨cause, refused, rfl, rfl⟩ := Program.run_ofCoercion_failed ends
      exact .literal refused

namespace Node

open Program

/-- A float fails only for a number that is not finite. -/
theorem float_refuses {id : NodeId} {value : Single} {isConst : Bool} {output : ValueType}
    (ends : (floatProgram id value isConst).run generateNode start = (.aborted (.failed error), last)) :
    Refuses supply start.builder (.raw (.float id value isConst) output) error last.builder := by
  unfold floatProgram at ends
  rw [bind_eq, run_bind, Action.bind_eq_failed] at ends
  obtain fails | ⟨text, middle, _, fails⟩ := ends
  · obtain ⟨unwritten, rfl, rfl⟩ := run_literal_failed fails
    exact .number unwritten
  · cases isConst <;> cases fails

/-- A reader fails as the value that it finds, or as its fallback. -/
theorem reader_refuses (fails : Fails supply generateNode) {id : NodeId} {key : String}
    {fallback : Node Empty} {output : ValueType}
    (supplied : supply.has (.node (.reader id key fallback)))
    (covers : supply.Covers start.builder.frames)
    (ends : (readerProgram key fallback output).run generateNode start =
      (.aborted (.failed error), last)) :
    Refuses supply start.builder (.raw (.reader id key fallback) output) error last.builder := by
  unfold readerProgram at ends
  rw [bind_eq, run_bind, Action.bind_of_done _ (run_find key start)] at ends
  cases found : start.builder.find? key with
  | some value =>
      rw [found] at ends
      have noted : (value.program output).run generateNode
          (start.note (.resolved key value.text)) = (.aborted (.failed error), last) := ends
      have noteCovers : supply.Covers (start.note (.resolved key value.text)).builder.frames := covers
      have inside := Value.refuses fails (covers.found found) noteCovers noted
      exact .override found inside
  | none =>
      rw [found] at ends
      rw [run_generated] at ends
      exact .fallback found (fails (supply.fallback supplied) covers ends)

/-- A coordinate fails as the value that redirects it. -/
theorem coordinate_refuses (fails : Fails supply generateNode)
    (covers : supply.Covers start.builder.frames)
    (ends : coordinateProgram.run generateNode start = (.aborted (.failed error), last)) :
    Refuses supply start.builder .coordinate error last.builder := by
  unfold coordinateProgram at ends
  rw [bind_eq, run_bind, Action.bind_of_done _ (run_find uvKey start)] at ends
  cases found : start.builder.find? uvKey with
  | some value =>
      rw [found] at ends
      exact .redirected found (Value.refuses fails (covers.found found) covers ends)
  | none =>
      rw [found] at ends
      cases ends

/-- A roughness fails as the value that overrides it. -/
theorem roughness_refuses (fails : Fails supply generateNode)
    (covers : supply.Covers start.builder.frames)
    (ends : roughnessProgram.run generateNode start = (.aborted (.failed error), last)) :
    Refuses supply start.builder .roughness error last.builder := by
  unfold roughnessProgram at ends
  rw [bind_eq, run_bind, Action.bind_of_done _ (run_find roughnessKey start)] at ends
  cases found : start.builder.find? roughnessKey with
  | some value =>
      rw [found] at ends
      exact .rough found (Value.refuses fails (covers.found found) covers ends)
  | none =>
      rw [found] at ends
      cases ends

/-- Up to the place of the failure a sample goes as in a derivation. -/
theorem sample_refuses (derives : Derives supply generateNode) (fails : Fails supply generateNode)
    {id : NodeId} {texture : String} {output : ValueType}
    (covers : supply.Covers start.builder.frames)
    (ends : (sampleProgram texture).run generateNode start = (.aborted (.failed error), last)) :
    Refuses supply start.builder (.raw (.sample id texture) output) error last.builder := by
  unfold sampleProgram at ends
  rw [bind_eq, run_bind, Action.bind_eq_failed] at ends
  obtain failed | ⟨coordinate, first, addressed, ends⟩ := ends
  · exact .coordinate (coordinate_refuses fails covers failed)
  have located := coordinate_derives derives covers addressed
  have around : supply.Covers first.builder.frames := by
    rw [located.extends.frames]
    exact covers
  cases dimensioned : Dimension.ofCoordinate? coordinate.type with
  | none =>
      simp only [dimensioned] at ends
      cases ends
      exact .dimension located dimensioned
  | some dimension =>
      simp only [dimensioned] at ends
      rw [bind_eq, run_bind, Action.bind_eq_failed] at ends
      obtain failed | ⟨roughness, second, blurred, ends⟩ := ends
      · exact .roughness located (roughness_refuses fails around failed)
      have leveled := roughness_derives derives around blurred
      rw [bind_eq, run_bind, Action.bind_of_done _ (run_config second)] at ends
      rw [bind_eq, run_bind, Action.bind_eq_failed] at ends
      obtain failed | ⟨text, middle, ran, ends⟩ := ends
      · obtain ⟨unwritten, rfl, rfl⟩ := run_literal_failed failed
        exact .level located leveled unwritten
      obtain ⟨_, rfl⟩ := run_literal.mp ran
      rw [bind_eq, run_bind, Action.bind_eq_failed] at ends
      obtain failed | ⟨index, later, _, ends⟩ := ends
      · obtain ⟨clash, clashes, rfl, rfl⟩ := run_registerTexture_failed failed
        exact .clash located dimensioned leveled clashes
      · cases ends

/-- An operation fails as one of its operands or because they have no common type. -/
theorem operands_refuse (derives : Derives supply generateNode) (fails : Fails supply generateNode)
    {node left right : Node Empty} {output : ValueType} (pair : node.pair? = some (left, right))
    (leftSupplied : supply.has (.node left)) (rightSupplied : supply.has (.node right))
    (covers : supply.Covers start.builder.frames)
    (ends : (operandsProgram left right).run generateNode start = (.aborted (.failed error), last)) :
    Refuses supply start.builder (.raw node output) error last.builder := by
  unfold operandsProgram at ends
  rw [bind_eq, run_bind, Action.bind_eq_failed, run_generated] at ends
  obtain failed | ⟨first, middle, leftDone, ends⟩ := ends
  · exact .left pair (fails leftSupplied covers failed)
  have leftDerived := derives leftSupplied covers leftDone
  have around : supply.Covers middle.builder.frames := by
    rw [leftDerived.extends.frames]
    exact covers
  rw [bind_eq, run_bind, Action.bind_eq_failed, run_generated] at ends
  obtain failed | ⟨second, later, rightDone, ends⟩ := ends
  · exact .right pair leftDerived (fails rightSupplied around failed)
  have rightDerived := derives rightSupplied around rightDone
  obtain ⟨cause, apart, rfl, rfl⟩ := run_ofCoercion_failed ends
  exact .incompatible pair leftDerived rightDerived apart

/-- A node whose program fails is refused. -/
theorem program_refuses (derives : Derives supply generateNode) (fails : Fails supply generateNode)
    {node : Node Empty} {output : ValueType} (supplied : supply.has (.node node))
    (covers : supply.Covers start.builder.frames)
    (ends : (node.program custom output).run generateNode start = (.aborted (.failed error), last)) :
    Refuses supply start.builder (.raw node output) error last.builder := by
  cases node with
  | expression | normal => cases ends
  | float id value isConst => exact float_refuses ends
  | context id type overrides child =>
      rw [program, run, Action.bind_eq_failed] at ends
      obtain enclosed | ⟨result, middle, _, ends⟩ := ends
      · rw [run_generated] at enclosed
        obtain ⟨outcome, inner⟩ := Prod.mk.inj enclosed
        have inside := covers.cons (supply.override supplied)
        exact inner ▸ .context (fails (supply.child supplied) inside (Prod.ext outcome rfl))
      · cases ends
  | reader id key fallback => exact reader_refuses fails supplied covers ends
  | sample id texture => exact sample_refuses derives fails covers ends
  | binary id operation left right =>
      obtain ⟨leftSupplied, rightSupplied⟩ := supply.operands supplied
      rw [program, binaryProgram, bind_eq, run_bind, Action.bind_eq_failed] at ends
      obtain failed | ⟨operands, middle, _, ends⟩ := ends
      · exact operands_refuse derives fails rfl leftSupplied rightSupplied covers failed
      · cases ends
  | mix id left right factor =>
      obtain ⟨leftSupplied, rightSupplied, factorSupplied⟩ := supply.mixed supplied
      rw [program, mixProgram, bind_eq, run_bind, Action.bind_eq_failed] at ends
      obtain failed | ⟨⟨firstOperand, secondOperand, type⟩, middle, ran, ends⟩ := ends
      · exact operands_refuse derives fails rfl leftSupplied rightSupplied covers failed
      obtain ⟨first, between, second, leftDone, rightDone, _⟩ :=
        operands_derive derives leftSupplied rightSupplied covers ran
      have around : supply.Covers middle.builder.frames := by
        rw [(rightDone.extends.trans leftDone.extends).frames]
        exact covers
      dsimp only at ends
      rw [bind_eq, run_bind, Action.bind_eq_failed, run_generated] at ends
      obtain failed | ⟨third, later, _, ends⟩ := ends
      · exact .factor leftDone rightDone (fails factorSupplied around failed)
      · cases ends
  | custom id label type content => exact content.elim

end Node

/-- A result is unusable only if it cannot be converted. -/
theorem Action.finish_eq_failed {name : NodeName} {output : ValueType} {expression : TypedTerm}
    (ends : finish name output expression start = (.aborted (.failed error), last)) :
    ∃ cause, expression.coerce output = .error cause ∧ error = .unusable name output cause ∧
      last = start := by
  unfold finish at ends
  cases conversion : expression.coerce output with
  | error cause =>
      rw [conversion] at ends
      cases ends
      exact ⟨cause, rfl, rfl, rfl⟩
  | ok converted =>
      rw [conversion] at ends
      cases ends

/-- A generation that fails has a derivation of its error, by induction on the fuel. -/
theorem generate_fails (custom : Empty → NodeId → ValueType → Program Empty Host TypedTerm)
    (supply : Supply Empty) (fuel : Nat) : Fails supply (generate custom fuel) := by
  induction fuel with
  | zero =>
      intro node output start error last supplied covers ends
      cases ends
  | succ fuel ih =>
      intro node output start error last supplied covers ends
      have derives : Derives supply (generate custom fuel) := generate_derives custom supply fuel
      rw [generate, Action.bind_eq_failed] at ends
      obtain failed | ⟨raw, middle, ran, finished⟩ := ends
      · exact .passed (Node.program_refuses derives ih supplied covers failed)
      · obtain ⟨cause, refused, rfl, rfl⟩ := Action.finish_eq_failed finished
        exact .unusable (Node.program_derives derives supplied covers ran) refused

end Soundness

end ShadeTree
