import ShadeTree.Construction
import ShadeTree.Proofs.Likeness.Basic

/-!
Constructions of one likeness.

Two constructions of one description go the same way wherever they count ids from. Their trees only
differ in where their ids start, and they fail for the same cause.
-/

namespace ShadeTree

variable {α β γ δ : Type}

namespace Construction

/-- A construction goes on with the next id that its first part leaves. -/
theorem run_bind (first : Construction α) (rest : α → Construction β) (next : NodeId) :
    (first >>= rest).run next =
      match first.run next with
      | (.ok value, after) => (rest value).run after
      | (.error cause, after) => (.error cause, after) := by
  change ExceptT.bindCont rest (first.run next).1 (first.run next).2 = _
  rcases first.run next with ⟨result, after⟩
  cases result <;> rfl

end Construction

namespace Likeness

/-- Ids that lie equally far behind two starts. -/
def numbering (first second : NodeId) : Likeness where
  ids id other := ∃ offset, id = first + offset ∧ other = second + offset
  unique := by
    rintro _ _ _ _ ⟨offset, rfl, rfl⟩ ⟨another, rfl, rfl⟩
    exact Nat.add_left_cancel_iff.trans Nat.add_left_cancel_iff.symm
  keys _ := True
  texts := True

/-- Constructions with like results that take equally many ids. -/
def Constructions (like : Likeness) (answers : α → β → Prop) (left : Construction α)
    (right : Construction β) : Prop :=
  ∀ next other, like.ids next other →
    Results answers (left.run next).1 (right.run other).1 ∧
      like.ids (left.run next).2 (right.run other).2

namespace Constructions

variable {like : Likeness} {answers : α → β → Prop} {others : γ → δ → Prop}

/-- Constructions that give related answers and take no ids are alike. -/
theorem pure {left : α} {right : β} (same : answers left right) :
    like.Constructions answers (pure left) (pure right) :=
  fun _ _ ids => ⟨.ok same, ids⟩

/-- Constructions that fail for one cause are alike. -/
theorem throw (cause : ConstructionError) :
    like.Constructions answers (throw cause) (throw cause) :=
  fun _ _ ids => ⟨.error cause, ids⟩

/-- One result that takes no ids is like itself. -/
theorem lift (result : Except ConstructionError α) :
    like.Constructions Eq (liftM result) (liftM result) := by
  intro next other ids
  cases result with
  | ok value => exact ⟨.ok rfl, ids⟩
  | error cause => exact ⟨.error cause, ids⟩

/-- Like constructions that continue alike are alike. -/
theorem bind {left : Construction α} {right : Construction β} {next : α → Construction γ}
    {follow : β → Construction δ} (first : like.Constructions answers left right)
    (rest : ∀ value other, answers value other → like.Constructions others (next value) (follow other)) :
    like.Constructions others (left >>= next) (right >>= follow) := by
  intro start other ids
  have ends := first start other ids
  rw [Construction.run_bind, Construction.run_bind]
  rcases leftEnds : left.run start with ⟨result, after⟩
  rcases rightEnds : right.run other with ⟨another, later⟩
  rw [leftEnds, rightEnds] at ends
  obtain ⟨results, counters⟩ := ends
  dsimp only at results counters
  cases results with
  | ok same => exact rest _ _ same after later counters
  | error cause => exact ⟨.error cause, counters⟩

/-- Changing the error of like constructions in one way leaves them alike. -/
theorem adapt (change : ConstructionError → ConstructionError) {left : Construction α}
    {right : Construction β} (same : like.Constructions answers left right) :
    like.Constructions answers (ExceptT.adapt change left) (ExceptT.adapt change right) := by
  intro next other ids
  obtain ⟨results, counters⟩ := same next other ids
  refine ⟨?_, counters⟩
  change Results answers ((left.run next).1.mapError change) ((right.run other).1.mapError change)
  generalize (left.run next).1 = result at results ⊢
  generalize (right.run other).1 = another at results ⊢
  cases results with
  | ok same => exact .ok same
  | error cause => exact .error (change cause)

variable {first second : NodeId}

/-- Fresh ids belong together when the counters do. -/
theorem fresh : (numbering first second).Constructions (numbering first second).ids
    Construction.fresh Construction.fresh := by
  rintro _ _ ⟨offset, rfl, rfl⟩
  exact ⟨.ok ⟨offset, rfl, rfl⟩, offset + 1, rfl, rfl⟩

/-! ### Trees of one description -/

/-- A physical scope makes like frames at both counters. -/
theorem overrides (scope : PhysicalScope) :
    (numbering first second).Constructions (numbering first second).Entries scope.overrides
      scope.overrides := by
  cases scope with
  | radiance =>
      refine fresh.bind fun id other ids => ?_
      exact .pure (.cons (.node (.expression ids fun _ => rfl)) .nil)
  | irradiance =>
      refine fresh.bind fun id other ids => fresh.bind fun next another later => ?_
      exact .pure (.cons (.node (.float ids)) (.cons (.node (.normal later)) .nil))

/-- A physical scope wraps like trees into like contexts. -/
theorem wrap (scope : PhysicalScope) {child other : Node Empty}
    (inside : (numbering first second).Nodes child other) :
    (numbering first second).Constructions (numbering first second).Nodes (scope.wrap child)
      (scope.wrap other) := by
  refine (overrides scope).bind fun frame another installed => ?_
  exact fresh.bind fun id next ids => .pure (.context ids installed inside)

/-- An operation makes like nodes of like inputs. -/
theorem apply (operation : Operation) {inputs others : List (Node Empty)}
    (same : List.Forall₂ (numbering first second).Nodes inputs others) :
    (numbering first second).Constructions (numbering first second).Nodes (operation.apply inputs)
      (operation.apply others) := by
  have length : inputs.length = others.length := same.length_eq
  unfold Operation.apply
  cases operation with
  | add | multiply =>
      rcases same with _ | ⟨lefts, _ | ⟨rights, _ | ⟨factors, more⟩⟩⟩
      case cons.cons.nil => exact fresh.bind fun _ _ ids => .pure (.binary ids lefts rights)
      all_goals exact length ▸ .throw _
  | mix =>
      rcases same with _ | ⟨lefts, _ | ⟨rights, _ | ⟨factors, _ | ⟨further, more⟩⟩⟩⟩
      case cons.cons.cons.nil =>
        exact fresh.bind fun _ _ ids => .pure (.mix ids lefts rights factors)
      all_goals exact length ▸ .throw _

mutual

/-- By induction on the description; both constructions understand its words in the same way. -/
theorem build : (description : NodeDescription) →
    (numbering first second).Constructions (numbering first second).Nodes description.build
      description.build
  | .physicalContext name child => by
      refine (lift _).bind fun scope other same => ?_
      cases same
      exact (build child).bind fun _ _ inside => wrap scope inside
  | .context values child type => by
      refine (buildValues values).bind fun _ _ installed => ?_
      refine (build child).bind fun _ _ inside => ?_
      exact fresh.bind fun _ _ ids => .pure (.context ids installed inside)
  | .expression snippet type => by
      unfold NodeDescription.build
      split
      · exact .throw _
      · exact fresh.bind fun _ _ ids => .pure (.expression ids fun _ => rfl)
  | .float value isConst => fresh.bind fun _ _ ids => .pure (.float ids)
  | .normal name => by
      refine (lift _).bind fun space other same => ?_
      cases same
      exact fresh.bind fun _ _ ids => .pure (.normal ids)
  | .contextValue key fallback => by
      refine (build fallback).bind fun _ _ inside => ?_
      exact fresh.bind fun _ _ ids => .pure (.reader ids trivial inside)
  | .environmentSample texture => fresh.bind fun _ _ ids => .pure (.sample ids trivial trivial)
  | .math name inputs => by
      refine (lift _).bind fun operation other same => ?_
      cases same
      exact (buildInputs inputs).bind fun _ _ all => apply operation all

/-- The overrides of a description are alike at both counters. -/
theorem buildValues : (values : List (String × NodeDescription)) →
    (numbering first second).Constructions (numbering first second).Entries
      (NodeDescription.buildValues values) (NodeDescription.buildValues values)
  | [] => .pure .nil
  | (key, value) :: rest => by
      refine ((build value).adapt _).bind fun _ _ inside => ?_
      exact (buildValues rest).bind fun _ _ later => .pure (.cons (.node inside) later)

/-- The inputs of a description are alike at both counters. -/
theorem buildInputs : (inputs : List NodeDescription) →
    (numbering first second).Constructions (List.Forall₂ (numbering first second).Nodes)
      (NodeDescription.buildInputs inputs) (NodeDescription.buildInputs inputs)
  | [] => .pure .nil
  | input :: rest => by
      refine (build input).bind fun _ _ inside => ?_
      exact (buildInputs rest).bind fun _ _ later => .pure (.cons inside later)

end

end Constructions

end Likeness

end ShadeTree
