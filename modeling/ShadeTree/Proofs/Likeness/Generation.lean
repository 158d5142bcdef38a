import ShadeTree.Proofs.Likeness.Run

/-!
Like trees are generated alike.

The programs of like trees make the same calls in the same order, as long as like builders answer
them. From there it is an induction on the fuel: trees of one shape, generated with the same fuel on
like builders, give like expressions or like errors, and leave like builders.
-/

namespace ShadeTree

namespace Likeness

variable {like : Likeness} {Host α β γ δ : Type}

/-- Programs that make like calls, whatever like builders answer. -/
inductive Programs (like : Likeness) :
    {α β : Type} → (α → β → Prop) → Program Empty Host α → Program Empty Host β → Prop
  | done {α β : Type} {answers : α → β → Prop} {left : α} {right : β} (same : answers left right) :
      Programs like answers (.done left) (.done right)
  | fail {α β : Type} {answers : α → β → Prop} {error other : GenerationError}
      (errors : like.Errors error other) : Programs like answers (.fail error) (.fail other)
  | inspect {α β γ δ : Type} {answers : α → β → Prop} {seen : γ → δ → Prop}
      {look : Builder Empty → Host → γ × Host} {watch : Builder Empty → Host → δ × Host}
      {next : γ → Program Empty Host α} {follow : δ → Program Empty Host β}
      (looks : ∀ left right host other, like.Builders left right →
        seen (look left host).1 (watch right other).1)
      (rest : ∀ answer other, seen answer other → Programs like answers (next answer) (follow other)) :
      Programs like answers (.inspect look next) (.inspect watch follow)
  | note {α β : Type} {answers : α → β → Prop} {event other : Event} {next : Program Empty Host α}
      {follow : Program Empty Host β} (rest : Programs like answers next follow) :
      Programs like answers (.note event next) (.note other follow)
  | within {α β γ δ : Type} {answers : α → β → Prop} {inner : γ → δ → Prop}
      {frame overrides : Frame Empty} {body : Program Empty Host γ} {other : Program Empty Host δ}
      {next : γ → Program Empty Host α} {follow : δ → Program Empty Host β}
      (entries : like.Entries frame overrides) (bodies : Programs like inner body other)
      (rest : ∀ answer other, inner answer other → Programs like answers (next answer) (follow other)) :
      Programs like answers (.within frame body next) (.within overrides other follow)
  | declareLocal {α β : Type} {answers : α → β → Prop} {owner other : NodeId} {type : ValueType}
      {initializer : String} {next : String → Program Empty Host α}
      {follow : String → Program Empty Host β} (ids : like.ids owner other)
      (rest : ∀ name, Programs like answers (next name) (follow name)) :
      Programs like answers (.declareLocal owner type initializer next)
        (.declareLocal other type initializer follow)
  | registerTexture {α β : Type} {answers : α → β → Prop} {name : String} {dimension : Dimension}
      {next : Nat → Program Empty Host α} {follow : Nat → Program Empty Host β}
      (rest : ∀ index other, Programs like answers (next index) (follow other)) :
      Programs like answers (.registerTexture name dimension next)
        (.registerTexture name dimension follow)
  | generate {α β : Type} {answers : α → β → Prop} {node other : Node Empty} {output : ValueType}
      {next : TypedTerm → Program Empty Host α} {follow : TypedTerm → Program Empty Host β}
      (nodes : like.Nodes node other)
      (rest : ∀ answer another, like.Terms answer another →
        Programs like answers (next answer) (follow another)) :
      Programs like answers (.generate node output next) (.generate other output follow)

namespace Programs

variable {answers : α → β → Prop} {others : γ → δ → Prop}

/-- Like programs that continue alike are alike. -/
theorem bind {left : Program Empty Host α} {right : Program Empty Host β}
    {next : α → Program Empty Host γ} {follow : β → Program Empty Host δ}
    (first : like.Programs answers left right)
    (rest : ∀ answer other, answers answer other →
      like.Programs others (next answer) (follow other)) :
    like.Programs others (left.bind next) (right.bind follow) := by
  induction first with
  | done same => exact rest _ _ same
  | fail errors => exact .fail errors
  | inspect looks _ ih => exact .inspect looks fun answer other seen => ih answer other seen rest
  | note _ ih => exact .note (ih rest)
  | within entries bodies _ _ ih =>
      exact .within entries bodies fun answer other seen => ih answer other seen rest
  | declareLocal ids _ ih => exact .declareLocal ids fun name => ih name rest
  | registerTexture _ ih => exact .registerTexture fun index other => ih index other rest
  | generate nodes _ ih =>
      exact .generate nodes fun answer another seen => ih answer another seen rest

/-- By induction on what the programs have in common; the nodes that they ask for are generated alike
by assumption. -/
theorem run {generateNode generateOther : Node Empty → ValueType → Action Empty Host TypedTerm}
    (generates : ∀ {node other : Node Empty} (output : ValueType), like.Nodes node other →
      like.Actions like.Terms (generateNode node output) (generateOther other output))
    {left : Program Empty Host α} {right : Program Empty Host β}
    (same : like.Programs answers left right) :
    like.Actions answers (left.run generateNode) (right.run generateOther) := by
  induction same with
  | done same => exact .done same
  | fail errors => exact .fail errors
  | inspect looks _ ih => exact (Actions.inspect looks).bind ih
  | note _ ih => exact (Actions.note _ _).bind fun _ _ _ => ih
  | within entries _ _ inner ih => exact (inner.within entries).bind ih
  | declareLocal ids _ ih =>
      refine (Actions.declareLocal ids _ _).bind fun name other same => ?_
      exact same ▸ ih name
  | registerTexture _ ih =>
      exact (Actions.registerTexture _ _).bind fun index other _ => ih index other
  | generate nodes _ ih => exact (generates _ nodes).bind ih

/-! ### The programs of built-in nodes -/

/-- Both programs see configs that are alike. -/
theorem config : like.Programs like.Configs (Program.config : Program Empty Host Config) .config :=
  .inspect (fun _ _ _ _ builders => builders.config) fun _ _ same => .done same

/-- Both programs look up a key that matters, and find values that are alike. -/
theorem find {key : String} (read : like.keys key) :
    like.Programs (Option.Rel like.Values) (Program.find? key : Program Empty Host _) (.find? key) :=
  .inspect (fun _ _ _ _ builders => builders.resolved key read) fun _ _ same => .done same

/-- Both programs ask for nodes of one shape, as one type. -/
theorem generated {node other : Node Empty} (nodes : like.Nodes node other) (output : ValueType) :
    like.Programs like.Terms (Program.generated node output : Program Empty Host TypedTerm)
      (.generated other output) :=
  .generate nodes fun _ _ same => .done same

/-- Coercions with like results are like programs. -/
theorem ofCoercion {left : Except CoercionError α} {right : Except CoercionError β}
    (results : Results answers left right) :
    like.Programs answers (Program.ofCoercion left : Program Empty Host α) (.ofCoercion right) := by
  cases results with
  | ok same => exact .done same
  | error cause => exact .fail (.coercion cause)

/-- The programs of like values are alike. -/
theorem value {left right : Value Empty} (values : like.Values left right) (output : ValueType) :
    like.Programs like.Terms (left.program output : Program Empty Host TypedTerm)
      (right.program output) := by
  cases values with
  | node inside => exact generated inside output
  | @literal text other type isConst same =>
      have terms : like.Terms (Snippet.typed ⟨text, type, isConst⟩)
          (Snippet.typed ⟨other, type, isConst⟩) :=
        ⟨rfl, rfl, fun counts => congrArg Term.verbatim (same counts)⟩
      exact ofCoercion (terms.coerce output)

/-- A literal is written by one program. -/
theorem literal (number : Number.Single) :
    like.Programs Eq (Program.literal number : Program Empty Host String) (.literal number) := by
  unfold Program.literal
  split
  · exact .done rfl
  · exact .fail (.notFinite number)

/-- Whether the last mip level has a literal is the same under both configurations. -/
theorem maxMip {left right : Config} (configs : like.Configs left right) :
    like.Programs (fun _ _ => True) (Program.literal left.envMaxMip : Program Empty Host String)
      (.literal right.envMaxMip) := by
  obtain rfl | ⟨_, leftFinite, rightFinite⟩ := configs
  · unfold Program.literal
    split
    · exact .done trivial
    · exact .fail (.notFinite _)
  · unfold Program.literal Number.Single.literal?
    rw [if_pos leftFinite, if_pos rightFinite]
    exact .done trivial

/-- The programs of two numbers with matched ids are alike. -/
theorem floatProgram {id other : NodeId} (ids : like.ids id other) (number : Number.Single)
    (isConst : Bool) :
    like.Programs like.Terms (Node.floatProgram id number isConst : Program Empty Host TypedTerm)
      (Node.floatProgram other number isConst) := by
  refine (literal number).bind fun text _ same => ?_
  cases same
  cases isConst with
  | true => exact .done (.refl _)
  | false => exact bind (.declareLocal ids fun name => .done rfl) fun _ _ same => .done (same ▸ .refl _)

/-- Readers of a key that matters have like programs when their fallbacks are alike. -/
theorem readerProgram {key : String} (read : like.keys key) {fallback other : Node Empty}
    (nodes : like.Nodes fallback other) (output : ValueType) :
    like.Programs like.Terms (Node.readerProgram key fallback output : Program Empty Host TypedTerm)
      (Node.readerProgram key other output) := by
  refine (find read).bind fun found another same => ?_
  cases same with
  | none => exact generated nodes output
  | some values => exact .note (value values output)

/-- The texture coordinate is read alike when its key matters. -/
theorem coordinateProgram (read : like.keys uvKey) :
    like.Programs like.Terms (Node.coordinateProgram : Program Empty Host TypedTerm)
      Node.coordinateProgram := by
  refine (find read).bind fun found another same => ?_
  cases same with
  | none =>
      refine config.bind fun left right configs => .done ⟨rfl, rfl, fun counts => ?_⟩
      obtain rfl | ⟨free, _⟩ := configs
      · rfl
      · exact absurd counts free
  | some values =>
      dsimp only
      rw [values.type]
      exact value values _

/-- The roughness is read alike when its key matters. -/
theorem roughnessProgram (read : like.keys roughnessKey) :
    like.Programs like.Terms (Node.roughnessProgram : Program Empty Host TypedTerm)
      Node.roughnessProgram := by
  refine (find read).bind fun found another same => ?_
  cases same with
  | none => exact .done (.refl _)
  | some values => exact value values .f32

/-- One texture is sampled alike when both keys that a sample reads matter. -/
theorem sampleProgram (uv : like.keys uvKey) (roughness : like.keys roughnessKey)
    (texture : String) :
    like.Programs like.Terms (Node.sampleProgram texture : Program Empty Host TypedTerm)
      (Node.sampleProgram texture) := by
  refine (coordinateProgram uv).bind fun place other places => ?_
  rw [places.type]
  cases Dimension.ofCoordinate? other.type with
  | none => exact .fail (.badCoordinate _)
  | some dimension =>
      refine (roughnessProgram roughness).bind fun level another levels => ?_
      refine config.bind fun left right configs => ?_
      refine (maxMip configs).bind fun _ _ _ => ?_
      refine bind (.registerTexture fun _ _ => .done trivial) fun _ _ (_ : True) => ?_
      refine .done ⟨rfl, rfl, fun counts => ?_⟩
      obtain rfl | ⟨free, _⟩ := configs
      · dsimp only
        rw [places.term counts, levels.term counts]
      · exact absurd counts free

/-- Like operands are generated and unified alike. -/
theorem operandsProgram {left right first second : Node Empty} (lefts : like.Nodes left first)
    (rights : like.Nodes right second) :
    like.Programs (Terms.Operands like) (Node.operandsProgram left right : Program Empty Host _)
      (Node.operandsProgram first second) := by
  unfold Node.operandsProgram
  rw [lefts.type, rights.type]
  refine (generated lefts _).bind fun _ _ same => ?_
  refine (generated rights _).bind fun _ _ also => ?_
  exact ofCoercion (same.unify also)

/-- One operation on like operands has like programs. -/
theorem binaryProgram (operation : BinaryOperation) {left right first second : Node Empty}
    (lefts : like.Nodes left first) (rights : like.Nodes right second) :
    like.Programs like.Terms
      (Node.binaryProgram operation left right : Program Empty Host TypedTerm)
      (Node.binaryProgram operation first second) := by
  refine (operandsProgram lefts rights).bind fun operands others ⟨same, also, types⟩ => ?_
  refine .done ⟨types, congrArg₂ and same.isConst also.isConst, fun counts => ?_⟩
  exact congrArg₂ operation.term (same.term counts) (also.term counts)

/-- Mixing like operands by like factors has like programs. -/
theorem mixProgram {left right factor first second third : Node Empty}
    (lefts : like.Nodes left first) (rights : like.Nodes right second)
    (factors : like.Nodes factor third) :
    like.Programs like.Terms (Node.mixProgram left right factor : Program Empty Host TypedTerm)
      (Node.mixProgram first second third) := by
  refine (operandsProgram lefts rights).bind fun operands others ⟨same, also, types⟩ => ?_
  refine (generated factors .f32).bind fun weight another weights => ?_
  refine .done ⟨types, ?_, fun counts => ?_⟩
  · dsimp only
    rw [same.isConst, also.isConst, weights.isConst]
  · dsimp only
    rw [same.term counts, also.term counts, weights.term counts]

/-- Trees of one shape have like programs at their roots. -/
theorem node {custom other : Empty → NodeId → ValueType → Program Empty Host TypedTerm}
    {left right : Node Empty} (nodes : like.Nodes left right) (output : ValueType) :
    like.Programs like.Terms (left.program custom output) (right.program other output) := by
  cases nodes with
  | expression ids same => exact .done ⟨rfl, rfl, fun counts => congrArg Term.verbatim (same counts)⟩
  | float ids => exact floatProgram ids _ _
  | normal ids =>
      refine config.bind fun left right configs => .done ⟨rfl, rfl, fun counts => ?_⟩
      obtain rfl | ⟨free, _⟩ := configs
      · rfl
      · exact absurd counts free
  | context ids installed inside =>
      exact .within installed (generated inside output) fun _ _ same => .done same
  | reader ids read inside => exact readerProgram read inside output
  | sample ids uv roughness => exact sampleProgram uv roughness _
  | binary ids lefts rights => exact binaryProgram _ lefts rights
  | mix ids lefts rights factors => exact mixProgram lefts rights factors

end Programs

/-- Like trees are generated alike, by induction on the fuel. -/
theorem Nodes.generate {left right : Node Empty} (nodes : like.Nodes left right)
    (custom other : Empty → NodeId → ValueType → Program Empty Host TypedTerm) (fuel : Nat)
    (output : ValueType) :
    like.Actions like.Terms (ShadeTree.generate custom fuel left output)
      (ShadeTree.generate other fuel right output) := by
  induction fuel generalizing left right output with
  | zero => exact .exhausted
  | succ fuel ih =>
      refine Actions.bind (Programs.run (fun output inner => ih inner output) (.node nodes output))
        fun expression another same => ?_
      -- the names of the nodes have the same label, and ids that belong together
      unfold Node.name
      rw [nodes.label]
      exact .finish nodes.ids _ output same

end Likeness

end ShadeTree
