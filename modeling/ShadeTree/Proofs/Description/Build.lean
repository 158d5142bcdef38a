import ShadeTree.Compilation
import ShadeTree.Proofs.Generation.Supply
import ShadeTree.Proofs.Likeness.Construction

/-!
Trees of descriptions.

Only users of the library install texts of their own: every value in the tree of a description is a
node.
-/

namespace ShadeTree

open Number

variable {Custom α β : Type}

namespace Construction

/-- Whatever a construction gives has the property. -/
def Gives (holds : α → Prop) (construction : Construction α) : Prop :=
  ∀ next value, (construction.run next).1 = .ok value → holds value

namespace Gives

variable {holds : α → Prop} {after : β → Prop}

/-- A construction of one value gives what holds of the value. -/
theorem pure {value : α} (given : holds value) : Gives holds (pure value) := by
  intro next result ends
  cases ends
  exact given

/-- A construction that fails gives nothing, and so whatever is asked. -/
theorem throw (cause : ConstructionError) : Gives holds (throw cause) := by
  intro next result ends
  cases ends

theorem trivial (construction : Construction α) : Gives (fun _ => True) construction :=
  fun _ _ _ => True.intro

/-- What follows may rely on what holds of the first value. -/
theorem bind {first : Construction α} {rest : α → Construction β} (given : Gives holds first)
    (goesOn : ∀ value, holds value → Gives after (rest value)) : Gives after (first >>= rest) := by
  intro next result ends
  rw [run_bind] at ends
  rcases run : first.run next with ⟨cause | value, later⟩
  · rw [run] at ends
    cases ends
  · rw [run] at ends
    exact goesOn value (given next value (congrArg Prod.fst run)) later result ends

/-- Another error makes no difference to what is given. -/
theorem adapt {construction : Construction α} (given : Gives holds construction)
    (change : ConstructionError → ConstructionError) :
    Gives holds (ExceptT.adapt change construction) := by
  intro next result ends
  change ((construction.run next).1.mapError change) = .ok result at ends
  cases run : (construction.run next).1 with
  | error cause =>
      rw [run] at ends
      cases ends
  | ok value =>
      rw [run] at ends
      cases ends
      exact given next _ run

end Gives

end Construction

open Construction

/-- All values in a tree are nodes. -/
def Node.Literalless (tree : Node Custom) : Prop :=
  ∀ snippet, .literal snippet ∉ tree.parts

/-- All values of a frame and all values in them are nodes. -/
def Frame.Literalless (frame : Frame Custom) : Prop :=
  ∀ snippet, .literal snippet ∉ Value.partsAll frame

section

variable {id : NodeId} {key : String} {type : ValueType} {left right factor : Node Custom}

@[simp] theorem Frame.literalless_nil : Frame.Literalless ([] : Frame Custom) := by
  simp [Literalless, Value.partsAll]

@[simp] theorem Frame.literalless_cons {rest : Frame Custom} :
    Frame.Literalless ((key, .node left) :: rest) ↔ left.Literalless ∧ Frame.Literalless rest := by
  simp [Literalless, Node.Literalless, Value.partsAll, Value.parts, forall_and]

namespace Node

@[simp] theorem literalless_expression {snippet : String} :
    (Node.expression id snippet type : Node Custom).Literalless := by
  simp [Literalless, parts]

@[simp] theorem literalless_float {value : Single} {isConst : Bool} :
    (Node.float id value isConst : Node Custom).Literalless := by
  simp [Literalless, parts]

@[simp] theorem literalless_normal {space : NormalSpace} :
    (Node.normal id space : Node Custom).Literalless := by
  simp [Literalless, parts]

@[simp] theorem literalless_sample {texture : String} :
    (Node.sample id texture : Node Custom).Literalless := by
  simp [Literalless, parts]

/-- A context brings no literals if neither its overrides nor its child do. -/
@[simp] theorem literalless_context {declared : Option ValueType} {overrides : Frame Custom} :
    (Node.context id declared overrides left).Literalless ↔
      Frame.Literalless overrides ∧ left.Literalless := by
  simp [Literalless, Frame.Literalless, parts, forall_and]

/-- A reader brings no literals if its fallback does not. -/
@[simp] theorem literalless_reader :
    (Node.reader id key left).Literalless ↔ left.Literalless := by
  simp [Literalless, parts]

/-- An operation brings no literals if its operands do not. -/
@[simp] theorem literalless_binary {operation : BinaryOperation} :
    (Node.binary id operation left right).Literalless ↔ left.Literalless ∧ right.Literalless := by
  simp [Literalless, parts, forall_and]

@[simp] theorem literalless_mix :
    (Node.mix id left right factor).Literalless ↔
      left.Literalless ∧ right.Literalless ∧ factor.Literalless := by
  simp [Literalless, parts, forall_and]

end Node

end

/-- The overrides of a physical scope are nodes. -/
theorem PhysicalScope.overrides_literalless (scope : PhysicalScope) :
    Gives Frame.Literalless (scope.overrides : Construction (Frame Custom)) := by
  cases scope with
  | radiance => exact (Gives.trivial fresh).bind fun _ _ => .pure (by simp)
  | irradiance =>
      exact (Gives.trivial fresh).bind fun _ _ => (Gives.trivial fresh).bind fun _ _ => .pure (by simp)

/-- A physical context brings no literals of its own. -/
theorem PhysicalScope.wrap_literalless (scope : PhysicalScope) {child : Node Custom}
    (inside : child.Literalless) : Gives Node.Literalless (scope.wrap child) :=
  scope.overrides_literalless.bind fun _ installed =>
    (Gives.trivial fresh).bind fun _ _ => .pure (by simp [installed, inside])

/-- An operation brings no literals that its operands do not. -/
theorem Operation.apply_literalless (operation : Operation) {inputs : List (Node Custom)}
    (all : ∀ input ∈ inputs, input.Literalless) :
    Gives Node.Literalless (operation.apply inputs) := by
  unfold Operation.apply
  split
  case h_4 => exact .throw _
  all_goals
    simp only [List.mem_cons, List.not_mem_nil, or_false, forall_eq_or_imp, forall_eq] at all
    exact (Gives.trivial fresh).bind fun _ _ => .pure (by simp [all])

namespace NodeDescription

mutual

/-- By induction on the description. -/
theorem build_literalless : (description : NodeDescription) →
    Gives Node.Literalless (description.build : Construction (Node Custom))
  | .physicalContext name child =>
      (Gives.trivial _).bind fun scope _ =>
        (build_literalless child).bind fun _ inside => scope.wrap_literalless inside
  | .context values child type =>
      (buildValues_literalless values).bind fun _ installed =>
        (build_literalless child).bind fun _ inside =>
          (Gives.trivial fresh).bind fun _ _ => .pure (by simp [installed, inside])
  | .expression snippet type => by
      unfold build
      split
      · exact .throw _
      · exact (Gives.trivial fresh).bind fun _ _ => .pure (by simp)
  | .float value isConst =>
      (Gives.trivial fresh).bind fun _ _ => .pure (by simp)
  | .normal name =>
      (Gives.trivial _).bind fun _ _ =>
        (Gives.trivial fresh).bind fun _ _ => .pure (by simp)
  | .contextValue key fallback =>
      (build_literalless fallback).bind fun _ inside =>
        (Gives.trivial fresh).bind fun _ _ => .pure (by simp [inside])
  | .environmentSample texture =>
      (Gives.trivial fresh).bind fun _ _ => .pure (by simp)
  | .math name inputs =>
      (Gives.trivial _).bind fun operation _ =>
        (buildInputs_literalless inputs).bind fun _ all => operation.apply_literalless all

/-- The values of a described context are nodes without literals. -/
theorem buildValues_literalless : (values : List (String × NodeDescription)) →
    Gives Frame.Literalless (buildValues values : Construction (Frame Custom))
  | [] => .pure (by simp)
  | (_, value) :: rest =>
      ((build_literalless value).adapt _).bind fun _ inside =>
        (buildValues_literalless rest).bind fun _ others => .pure (by simp [inside, others])

/-- Described operands are built without literals. -/
theorem buildInputs_literalless : (inputs : List NodeDescription) →
    Gives (fun nodes => ∀ node ∈ nodes, Node.Literalless node)
      (buildInputs inputs : Construction (List (Node Custom)))
  | [] => .pure (by simp)
  | input :: rest =>
      (build_literalless input).bind fun _ inside =>
        (buildInputs_literalless rest).bind fun _ others =>
          .pure (List.forall_mem_cons.mpr ⟨inside, others⟩)

end

end NodeDescription

/-- A described graph is built without literals. -/
theorem GraphDescription.buildRoot_literalless {graph : GraphDescription} {next : NodeId}
    {root : Node Custom} (built : (graph.buildRoot next).1 = .ok root) : root.Literalless := by
  have given := graph.root.build_literalless next root
  change ((graph.root.build.run next).1.mapError _) = .ok root at built
  generalize (graph.root.build.run next).1 = result at built given
  cases result with
  | error cause => cases built
  | ok tree =>
      cases built
      exact given rfl

end ShadeTree
