import ShadeTree.Proofs.Generation.Calls
import ShadeTree.Proofs.Generation.Conversion
import ShadeTree.Proofs.Generation.Repetition

/-!
Constant expressions.

An expression may be inlined anywhere if nothing else has to be declared for it. Which leaves it is
made of is only known once the keys are resolved, and so is whether all of them are constant.
-/

namespace ShadeTree

/-! ### Leaves -/

namespace Value

/-- A value without operands, a child or a fallback. -/
def isLeaf : Value Empty → Bool
  | .literal _ | .node (.expression ..) | .node (.float ..) | .node (.normal ..)
  | .node (.sample ..) => true
  | .node _ => false

/-- Numbers and literals can be flagged constant, and nothing else. -/
def isConst : Value Empty → Bool
  | .node (.float _ _ isConst) => isConst
  | .literal snippet => snippet.isConst
  | .node _ => false

/-- The text that a number or a literal stands for. -/
def written? : Value Empty → Option String
  | .node (.float _ value _) => value.literal?
  | .literal snippet => some snippet.text
  | .node _ => none

end Value

/-- A leaf has no operands. -/
theorem Node.operands_of_isLeaf {node : Node Empty} (isLeaf : (Value.node node).isLeaf) :
    node.operands = [] := by
  cases node with
  | expression | float | normal | sample => rfl
  | context | reader | binary | mix => cases isLeaf
  | custom id label type content => exact content.elim

/-- The leaves to which a value leads under frames: through operands, children, and what readers are
resolved to. What a sample reads is not a leaf of its own, since the sample is one. -/
inductive LeafOf (leaf : Value Empty) : Frames Empty → Value Empty → Prop
  | itself {frames : Frames Empty} (isLeaf : leaf.isLeaf) : LeafOf leaf frames leaf
  | child {frames : Frames Empty} {id : NodeId} {type : Option ValueType} {overrides : Frame Empty}
      {child : Node Empty} (inside : LeafOf leaf (overrides :: frames) (.node child)) :
      LeafOf leaf frames (.node (.context id type overrides child))
  | override {frames : Frames Empty} {id : NodeId} {key : String} {fallback : Node Empty}
      {value : Value Empty} (found : frames.find? key = some value)
      (inside : LeafOf leaf frames value) : LeafOf leaf frames (.node (.reader id key fallback))
  | fallback {frames : Frames Empty} {id : NodeId} {key : String} {fallback : Node Empty}
      (missing : frames.find? key = none) (inside : LeafOf leaf frames (.node fallback)) :
      LeafOf leaf frames (.node (.reader id key fallback))
  | operand {frames : Frames Empty} {node operand : Node Empty} (member : operand ∈ node.operands)
      (inside : LeafOf leaf frames (.node operand)) : LeafOf leaf frames (.node node)

/-- All leaves of a value are constant. -/
def Frames.Fixes (frames : Frames Empty) (value : Value Empty) : Prop :=
  ∀ leaf, LeafOf leaf frames value → leaf.isConst

namespace Frames

variable {frames : Frames Empty}

/-- A leaf is its own only leaf. -/
theorem fixes_leaf {value : Value Empty} (isLeaf : value.isLeaf) :
    frames.Fixes value ↔ value.isConst := by
  refine ⟨fun fixes => fixes value (.itself isLeaf), fun constant leaf reached => ?_⟩
  cases reached with
  | itself _ => exact constant
  | child | override | fallback => cases isLeaf
  | operand member =>
      rw [Node.operands_of_isLeaf isLeaf] at member
      cases member

/-- The leaves of a context are those of its child under the overrides. -/
theorem fixes_context {id : NodeId} {type : Option ValueType} {overrides : Frame Empty}
    {child : Node Empty} :
    frames.Fixes (.node (.context id type overrides child)) ↔
      Fixes (overrides :: frames) (.node child) := by
  refine ⟨fun fixes leaf inside => fixes leaf (.child inside), fun fixes leaf reached => ?_⟩
  cases reached with
  | itself isLeaf => cases isLeaf
  | child inside => exact fixes leaf inside
  | operand member => cases member

/-- The leaves of a reader are those of the value that it finds. -/
theorem fixes_override {id : NodeId} {key : String} {fallback : Node Empty} {value : Value Empty}
    (found : frames.find? key = some value) :
    frames.Fixes (.node (.reader id key fallback)) ↔ frames.Fixes value := by
  refine ⟨fun fixes leaf inside => fixes leaf (.override found inside), fun fixes leaf reached => ?_⟩
  cases reached with
  | itself isLeaf => cases isLeaf
  | override known inside =>
      cases found.symm.trans known
      exact fixes leaf inside
  | fallback missing => cases found.symm.trans missing
  | operand member => cases member

/-- The leaves of a reader that finds nothing are those of its fallback. -/
theorem fixes_fallback {id : NodeId} {key : String} {fallback : Node Empty}
    (missing : frames.find? key = none) :
    frames.Fixes (.node (.reader id key fallback)) ↔ frames.Fixes (.node fallback) := by
  refine ⟨fun fixes leaf inside => fixes leaf (.fallback missing inside), fun fixes leaf reached => ?_⟩
  cases reached with
  | itself isLeaf => cases isLeaf
  | override found => cases missing.symm.trans found
  | fallback _ inside => exact fixes leaf inside
  | operand member => cases member

/-- The leaves of an operation are those of its operands. -/
theorem fixes_operands {node : Node Empty} (some : node.operands ≠ []) :
    frames.Fixes (.node node) ↔ ∀ operand ∈ node.operands, frames.Fixes (.node operand) := by
  refine ⟨fun fixes operand member leaf inside => fixes leaf (.operand member inside), ?_⟩
  intro fixes leaf reached
  cases reached with
  | itself isLeaf => exact absurd (Node.operands_of_isLeaf isLeaf) some
  | child | override | fallback => exact absurd rfl some
  | operand member inside => exact fixes _ member leaf inside

/-- A sum or a product is fixed if both operands are. -/
theorem fixes_binary {id : NodeId} {operation : BinaryOperation} {left right : Node Empty} :
    frames.Fixes (.node (.binary id operation left right)) ↔
      frames.Fixes (.node left) ∧ frames.Fixes (.node right) := by
  refine (fixes_operands (by simp [Node.operands])).trans ?_
  simp [Node.operands]

/-- A mix is fixed if both operands and the factor are. -/
theorem fixes_mix {id : NodeId} {left right factor : Node Empty} :
    frames.Fixes (.node (.mix id left right factor)) ↔
      frames.Fixes (.node left) ∧ frames.Fixes (.node right) ∧ frames.Fixes (.node factor) := by
  refine (fixes_operands (by simp [Node.operands])).trans ?_
  simp [Node.operands]

end Frames

/-! ### The flag -/

section

variable {expression result left right first second : TypedTerm} {target type : ValueType}

/-- A conversion keeps the flag. -/
theorem Converts.isConst (converts : Converts expression target result) :
    result.isConst = expression.isConst := by
  cases converts with
  | same | spread | narrowed => rfl

/-- Operands in their common type are constant together if they were. -/
theorem TypedTerm.unify_isConst (done : left.unify right = .ok (first, second, type)) :
    (first.isConst && second.isConst) = (left.isConst && right.isConst) := by
  obtain ⟨_, _, rfl, rfl⟩ | ⟨_, _, _, converts, rfl⟩ | ⟨_, _, _, rfl, converts⟩ :=
    unify_converts done
  · rfl
  · rw [converts.isConst]
  · rw [converts.isConst]

end

/-- What a demand is about, unless it comes from a sample. -/
def Demand.subject? : Demand → Option (Value Empty)
  | .raw tree _ | .node tree _ => some (.node tree)
  | .value installed _ => some installed
  | .coordinate | .roughness => none

section

variable {supply : Supply Empty} {builder after : Builder Empty} {demand : Demand}
  {expression : TypedTerm} {root : Value Empty}

/-- The flag tells whether all leaves are constant, by induction on the derivation. A sample is not
constant whatever it reads, so nothing has to be known of its coordinate and its roughness. -/
theorem Generates.isConst_iff (generates : Generates supply builder demand expression after)
    (asked : demand.subject? = some root) : expression.isConst ↔ builder.frames.Fixes root := by
  induction generates generalizing root with
  | expression | inlined | declared | normal | sample =>
      cases asked
      rw [Frames.fixes_leaf rfl]
      rfl
  | literal supplied conversion =>
      cases asked
      rw [Frames.fixes_leaf rfl, (TypedTerm.coerce_converts conversion).isConst]
      rfl
  | context inside ih =>
      cases asked
      rw [Frames.fixes_context]
      exact ih rfl
  | override found inside ih =>
      cases asked
      rw [Frames.fixes_override found]
      exact ih rfl
  | fallback missing inside ih =>
      cases asked
      rw [Frames.fixes_fallback missing]
      exact ih rfl
  | binary leftDone rightDone unified ih₁ ih₂ =>
      cases asked
      have second := ih₂ rfl
      rw [leftDone.extends.frames] at second
      rw [Frames.fixes_binary, ← ih₁ rfl, ← second, TypedTerm.unify_isConst unified,
        Bool.and_eq_true]
  | mix leftDone rightDone unified factorDone ih₁ ih₂ ih₃ =>
      cases asked
      have second := ih₂ rfl
      have third := ih₃ rfl
      rw [rightDone.extends.frames, leftDone.extends.frames] at third
      rw [leftDone.extends.frames] at second
      rw [Frames.fixes_mix, ← ih₁ rfl, ← second, ← third, TypedTerm.unify_isConst unified,
        Bool.and_eq_true, Bool.and_eq_true, and_assoc]
  | converted inside conversion ih =>
      rw [(TypedTerm.coerce_converts conversion).isConst]
      exact ih asked
  | tree inside ih => exact ih asked
  | redirected | input | rough | smooth => cases asked

/-- Nothing is declared for a constant expression. -/
theorem Generates.unchanged (generates : Generates supply builder demand expression after)
    (asked : demand.subject? = some root) (constant : expression.isConst) : after = builder := by
  induction generates generalizing root with
  | expression | inlined | normal | literal => rfl
  | declared | sample => cases constant
  | context inside ih =>
      cases ih rfl constant
      exact Builder.leave_enter _ _
  | override found inside ih | fallback missing inside ih => exact ih rfl constant
  | binary leftDone rightDone unified ih₁ ih₂ =>
      rw [TypedTerm.unify_isConst unified, Bool.and_eq_true] at constant
      exact (ih₂ rfl constant.2).trans (ih₁ rfl constant.1)
  | mix leftDone rightDone unified factorDone ih₁ ih₂ ih₃ =>
      rw [TypedTerm.unify_isConst unified, Bool.and_eq_true, Bool.and_eq_true] at constant
      exact (ih₃ rfl constant.2).trans ((ih₂ rfl constant.1.2).trans (ih₁ rfl constant.1.1))
  | converted inside conversion ih =>
      rw [(TypedTerm.coerce_converts conversion).isConst] at constant
      exact ih asked constant
  | tree inside ih => exact ih asked constant
  | redirected | input | rough | smooth => cases asked

end

/-! ### The text -/

/-- A text that is made of given ones by operators, vector constructors and swizzles alone. -/
inductive Composed (given : String → Prop) : String → Prop
  | given {text : String} (known : given text) : Composed given text
  | sum {left right : String} (first : Composed given left) (second : Composed given right) :
      Composed given ("(" ++ left ++ " + " ++ right ++ ")")
  | product {left right : String} (first : Composed given left) (second : Composed given right) :
      Composed given ("(" ++ left ++ " * " ++ right ++ ")")
  | mix {left right factor : String} (first : Composed given left) (second : Composed given right)
      (third : Composed given factor) :
      Composed given ("mix" ++ Term.arguments [left, right, factor])
  | vector {type : ValueType} {copies : Nat} {text : String} {pads : List Pad}
      (isVector : type.isVector) (some : 0 < copies) (inside : Composed given text) :
      Composed given (type.wgsl ++ Term.arguments (List.replicate copies text ++ pads.map Pad.text))
  | lanes {text : String} {count : Nat} (inside : Composed given text) :
      Composed given ("(" ++ text ++ ")" ++ "." ++ Term.laneNames count)

namespace Composed

variable {given others : String → Prop}

/-- What is composed of some texts is composed of more texts as well. -/
theorem mono {text : String} (composed : Composed given text)
    (implies : ∀ text, given text → others text) : Composed others text := by
  induction composed with
  | given known => exact .given (implies _ known)
  | sum _ _ ih₁ ih₂ => exact .sum ih₁ ih₂
  | product _ _ ih₁ ih₂ => exact .product ih₁ ih₂
  | mix _ _ _ ih₁ ih₂ ih₃ => exact .mix ih₁ ih₂ ih₃
  | vector isVector some _ ih => exact .vector isVector some ih
  | lanes _ ih => exact .lanes ih

end Composed

/-- Only vectors are filled with copies and pads. -/
theorem Spread.isVector {source target : ValueType} {copies : Nat} {pads : List Pad}
    (spread : Spread source target copies pads) : target.isVector := by
  cases spread with
  | scalarPair | scalarTriple | scalarQuadruple | pairTriple | pairQuadruple | tripleQuadruple => rfl

section

variable {given : String → Prop} {expression result left right first second : TypedTerm}
  {target type : ValueType}

/-- What is converted is composed of the same texts. -/
theorem Converts.composed (converts : Converts expression target result)
    (composed : Composed given expression.text) : Composed given result.text := by
  cases converts with
  | same => exact composed
  | spread spread => exact .vector spread.isVector spread.pos composed
  | narrowed => exact .lanes composed

/-- Operands in their common type are composed of the same texts. -/
theorem TypedTerm.unify_composed (done : left.unify right = .ok (first, second, type))
    (leftComposed : Composed given left.text) (rightComposed : Composed given right.text) :
    Composed given first.text ∧ Composed given second.text := by
  obtain ⟨_, _, rfl, rfl⟩ | ⟨_, _, _, converts, rfl⟩ | ⟨_, _, _, rfl, converts⟩ :=
    unify_converts done
  · exact ⟨leftComposed, rightComposed⟩
  · exact ⟨converts.composed leftComposed, rightComposed⟩
  · exact ⟨leftComposed, converts.composed rightComposed⟩

/-- An operation on unified operands is composed of their texts. -/
theorem Composed.binary (unified : left.unify right = .ok (first, second, type))
    (operation : BinaryOperation) (leftComposed : Composed given left.text)
    (rightComposed : Composed given right.text) :
    Composed given (operation.term first.term second.term).text := by
  obtain ⟨firstComposed, secondComposed⟩ :=
    TypedTerm.unify_composed unified leftComposed rightComposed
  cases operation with
  | add => exact .sum firstComposed secondComposed
  | multiply => exact .product firstComposed secondComposed

/-- A mix of unified operands is composed of their texts and the factor. -/
theorem Composed.mixed (unified : left.unify right = .ok (first, second, type)) {factor : String}
    (leftComposed : Composed given left.text) (rightComposed : Composed given right.text)
    (factorComposed : Composed given factor) :
    Composed given ("mix" ++ Term.arguments [first.text, second.text, factor]) := by
  obtain ⟨firstComposed, secondComposed⟩ :=
    TypedTerm.unify_composed unified leftComposed rightComposed
  exact .mix firstComposed secondComposed factorComposed

end

/-- The texts of the leaves to which a value leads. -/
def Frames.LeafText (frames : Frames Empty) (value : Value Empty) (text : String) : Prop :=
  ∃ leaf, LeafOf leaf frames value ∧ leaf.written? = some text

/-- The leaves of an operand are leaves of the operation. -/
theorem Composed.of_operand {frames : Frames Empty} {node operand : Node Empty} {text : String}
    (composed : Composed (frames.LeafText (.node operand)) text) (member : operand ∈ node.operands) :
    Composed (frames.LeafText (.node node)) text :=
  composed.mono fun _ ⟨leaf, reached, written⟩ => ⟨leaf, .operand member reached, written⟩

section

variable {supply : Supply Empty} {builder after : Builder Empty} {demand : Demand}
  {expression : TypedTerm} {root : Value Empty}

/-- A constant expression is composed of the texts of its leaves, by induction on the derivation. -/
theorem Generates.composed (generates : Generates supply builder demand expression after)
    (asked : demand.subject? = some root) (constant : expression.isConst) :
    Composed (builder.frames.LeafText root) expression.text := by
  induction generates generalizing root with
  | expression | declared | normal | sample => cases constant
  | inlined finite =>
      cases asked
      exact .given ⟨_, .itself rfl, if_pos finite⟩
  | literal supplied conversion =>
      cases asked
      exact (TypedTerm.coerce_converts conversion).composed (.given ⟨_, .itself rfl, rfl⟩)
  | context inside ih =>
      cases asked
      exact (ih rfl constant).mono fun _ ⟨leaf, reached, written⟩ => ⟨leaf, .child reached, written⟩
  | override found inside ih =>
      cases asked
      exact (ih rfl constant).mono fun _ ⟨leaf, reached, written⟩ =>
        ⟨leaf, .override found reached, written⟩
  | fallback missing inside ih =>
      cases asked
      exact (ih rfl constant).mono fun _ ⟨leaf, reached, written⟩ =>
        ⟨leaf, .fallback missing reached, written⟩
  | binary leftDone rightDone unified ih₁ ih₂ =>
      cases asked
      rw [TypedTerm.unify_isConst unified, Bool.and_eq_true] at constant
      refine .binary unified _ ?_ ?_
      · exact (ih₁ rfl constant.1).of_operand (by simp [Node.operands])
      · rw [← leftDone.extends.frames]
        exact (ih₂ rfl constant.2).of_operand (by simp [Node.operands])
  | mix leftDone rightDone unified factorDone ih₁ ih₂ ih₃ =>
      cases asked
      rw [TypedTerm.unify_isConst unified, Bool.and_eq_true, Bool.and_eq_true] at constant
      refine .mixed unified ?_ ?_ ?_
      · exact (ih₁ rfl constant.1.1).of_operand (by simp [Node.operands])
      · rw [← leftDone.extends.frames]
        exact (ih₂ rfl constant.1.2).of_operand (by simp [Node.operands])
      · rw [← leftDone.extends.frames, ← rightDone.extends.frames]
        exact (ih₃ rfl constant.2).of_operand (by simp [Node.operands])
  | converted inside conversion ih =>
      have conversion := TypedTerm.coerce_converts conversion
      rw [conversion.isConst] at constant
      exact conversion.composed (ih asked constant)
  | tree inside ih => exact ih asked constant
  | redirected | input | rough | smooth => cases asked

end

/-- What is generated is flagged constant if and only if every leaf that is come down to is a number
or a literal that is flagged constant; a sample never is. Then the builder is left as it was, and the
text is made of the texts of those leaves by operators, vector constructors and swizzles alone. -/
theorem generation_constant_iff {Host : Type}
    (custom : Empty → NodeId → ValueType → Program Empty Host TypedTerm) (fuel : Nat)
    (node : Node Empty) (output : ValueType) (start last : Machine Empty Host)
    (expression : TypedTerm)
    (ends : generate custom fuel node output start = (.done expression, last)) :
    let frames := start.builder.frames
    (expression.isConst ↔ ∀ leaf, LeafOf leaf frames (.node node) → leaf.isConst) ∧
      (expression.isConst → last.builder = start.builder ∧
        Composed (fun text => ∃ leaf, LeafOf leaf frames (.node node) ∧ leaf.written? = some text)
          expression.text) := by
  intro frames
  have supplied := Supply.ofParts_root frames node
  have covers := Supply.ofParts_covers frames node
  have generates := generate_derives custom (.ofParts frames node) fuel supplied covers ends
  exact ⟨generates.isConst_iff rfl, fun constant =>
    ⟨generates.unchanged rfl constant, generates.composed rfl constant⟩⟩

/-- A literal that is constant takes the place of a number that is not. -/
def mistTree : Node Empty :=
  let half := Number.Single.ofWord 0x3f000000
  .context 0 none [("density", .literal ⟨"0.25", .f32, true⟩)]
    (.mix 1 (.float 2 half true) (.reader 3 "density" (.float 4 half false)) (.float 5 half true))

/-- The mist is constant, and its text is composed of its leaves. -/
theorem mistTree_constant :
    let start : Machine Empty Unit := ⟨Builder.ofConfig .default, (), []⟩
    ∃ expression last, generate Empty.elim 4 mistTree .vec2 start = (.done expression, last) ∧
      (∀ leaf, LeafOf leaf [] (.node mistTree) → leaf.isConst) ∧ last.builder = start.builder ∧
      Composed (fun text => ∃ leaf, LeafOf leaf [] (.node mistTree) ∧ leaf.written? = some text)
        "vec2f(mix(0.5, 0.25, 0.5))" := by
  intro start
  have ends : generate Empty.elim 4 mistTree .vec2 start =
      (.done ⟨.vec2, .vector .vec2 1 (.mix (.number (Number.Single.ofWord 0x3f000000))
        (.verbatim "0.25") (.number (Number.Single.ofWord 0x3f000000))) [], true⟩, _) := rfl
  obtain ⟨leaves, plain⟩ := generation_constant_iff Empty.elim 4 mistTree .vec2 start _ _ ends
  obtain ⟨unchanged, composed⟩ := plain rfl
  exact ⟨_, _, ends, leaves.mp rfl, unchanged, composed⟩

end ShadeTree
