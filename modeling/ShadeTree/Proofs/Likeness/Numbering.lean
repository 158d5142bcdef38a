import ShadeTree.Compilation
import ShadeTree.Proofs.Likeness.Build
import ShadeTree.Proofs.Likeness.Construction
import ShadeTree.Proofs.Program.Invariant

/-!
Compiling does not depend on where ids are counted from, nor on what a builder was used for before.

The trees of one graph are built alike wherever their ids start, and ids are seen in nothing but the
errors that name a node.
-/

namespace ShadeTree

variable {Host : Type}

/-- The owner is counted from another start. -/
def LocalVariable.renumbered (start : NodeId) (declared : LocalVariable) : LocalVariable :=
  { declared with owner := start + declared.owner }

/-- A fragment shows no ids, but its locals are kept with those of their owners. -/
def Fragment.renumbered (start : NodeId) (fragment : Fragment) : Fragment :=
  { fragment with locals := fragment.locals.map (LocalVariable.renumbered start) }

/-- The same error about a node whose id is counted from another start. -/
def GenerationError.renumbered (start : NodeId) : GenerationError → GenerationError
  | .unusable node output cause => .unusable ⟨node.label, start + node.id⟩ output cause
  | error => error

def Outcome.renumbered (start : NodeId) : Outcome Fragment → Outcome Fragment
  | .done fragment => .done (fragment.renumbered start)
  | .aborted (.failed error) => .aborted (.failed (error.renumbered start))
  | ending => ending

/-- The tree of the graph is built with ids from the given start, and then the fragment. -/
def GraphDescription.compile (custom : Empty → NodeId → ValueType → Program Empty Host TypedTerm)
    (fuel : Nat) (graph : GraphDescription) (output : ValueType) (start : NodeId)
    (machine : Machine Empty Host) : Except CompileError (Outcome Fragment) :=
  (graph.buildRoot start).1.map fun root =>
    (Action.build (generate custom fuel) root output machine).1

namespace Likeness

variable {start : NodeId}

/-- Constructions that count from zero and from another start go the same way. -/
theorem buildRoot_alike (graph : GraphDescription) (start : NodeId) :
    Results (numbering 0 start).Nodes (graph.buildRoot 0).1 (graph.buildRoot start).1 := by
  have results := (Constructions.build graph.root 0 start ⟨0, rfl, rfl⟩).1
  unfold GraphDescription.buildRoot
  dsimp only
  generalize (graph.root.build.run 0).1 = left at results ⊢
  generalize (graph.root.build.run start).1 = right at results ⊢
  cases results with
  | ok nodes => exact .ok nodes
  | error cause => exact .error _

/-- A local that is like one counted from zero is that one, renumbered. -/
theorem Locals.renumbered {left right : LocalVariable} (same : (numbering 0 start).Locals left right) :
    right = left.renumbered start := by
  cases left
  cases right
  obtain ⟨⟨offset, rfl, rfl⟩, rfl, rfl, rfl⟩ := same
  simp only [LocalVariable.renumbered, Nat.zero_add]

theorem locals_renumbered {left right : List LocalVariable}
    (locals : List.Forall₂ (numbering 0 start).Locals left right) :
    right = left.map (LocalVariable.renumbered start) := by
  induction locals with
  | nil => rfl
  | cons same rest ih => rw [List.map_cons, same.renumbered, ih]

/-- A fragment that is like one counted from zero is that one, renumbered. -/
theorem Fragments.renumbered {left right : Fragment} (same : (numbering 0 start).Fragments left right) :
    right = left.renumbered start := by
  have expression : left.expression = right.expression := same.expression.eq trivial
  have source : left.source = right.source := same.source trivial
  have locals := locals_renumbered same.locals
  have textures := same.textures
  cases left
  cases right
  obtain rfl := expression
  obtain rfl := source
  obtain rfl := locals
  obtain rfl := textures
  rfl

/-- An outcome that is like one counted from zero is that one, renumbered. -/
theorem Outcomes.renumbered {left right : Outcome Fragment}
    (same : (numbering 0 start).Outcomes (numbering 0 start).Fragments left right) :
    right = left.renumbered start := by
  cases same with
  | done fragments => exact congrArg Outcome.done fragments.renumbered
  | failed errors =>
      cases errors with
      | unusable ids =>
          obtain ⟨offset, rfl, rfl⟩ := ids
          rw [Nat.zero_add]
          rfl
      | coercion | notFinite | badCoordinate | dimensionClash => rfl
  | exhausted => rfl

end Likeness

/-- A tree of built-in nodes is built without a lasting change of the configuration and the frames. -/
theorem build_settings (custom : Empty → NodeId → ValueType → Program Empty Host TypedTerm)
    (fuel : Nat) (root : Node Empty) (output : ValueType) (machine : Machine Empty Host) :
    let after := (Action.build (generate custom fuel) root output machine).2.builder
    after.config = machine.builder.config ∧ after.frames = machine.builder.frames := by
  have leads := Action.leads_build Builder.settings_lasting
    (generate_leads Builder.settings_lasting custom fuel) root output machine
  refine ⟨leads.1, ?_⟩
  have restores := (generate_restores custom fuel root output (machine.compiling root output)).1
  rcases Action.build_builder (generate custom fuel) root output machine with same | emptied
  · exact same ▸ restores
  · exact emptied ▸ restores

/-- A machine whose builder was not used yet. -/
def Machine.ofConfig (config : Config) (host : Host) : Machine Empty Host :=
  ⟨Builder.ofConfig config, host, []⟩

/-- Whatever a builder was used for and wherever ids start, compiling a graph gives what a new builder
gives for ids from zero. -/
theorem compile_renumbered (custom : Empty → NodeId → ValueType → Program Empty Host TypedTerm)
    (fuel : Nat) (graph : GraphDescription) (output : ValueType) (start : NodeId) (host : Host)
    {machine : Machine Empty Host} (plain : machine.builder.frames = []) :
    graph.compile custom fuel output start machine =
      (graph.compile custom fuel output 0 (.ofConfig machine.builder.config host)).map
        (Outcome.renumbered start) := by
  let fresh := Machine.ofConfig machine.builder.config host
  have results := Likeness.buildRoot_alike graph start
  have resolved : ∀ key, (Likeness.numbering 0 start).keys key →
      Option.Rel (Likeness.numbering 0 start).Values (fresh.builder.find? key)
        (machine.builder.find? key) := by
    intro key _
    rw [Builder.find?, Builder.find?, plain]
    exact .none
  unfold GraphDescription.compile
  generalize (graph.buildRoot 0).1 = left at results ⊢
  generalize (graph.buildRoot start).1 = right at results ⊢
  cases results with
  | error cause => rfl
  | ok nodes =>
      have built := Likeness.Actions.build (nodes.generate custom custom fuel output) fresh machine
        (.inl rfl) resolved
      exact congrArg Except.ok built.outcomes.renumbered

/-- What compiling a graph of built-in nodes comes to is settled by the graph, the configuration and
the output, up to where the ids of the nodes start. It does not matter what a builder without frames
was used for before, and so the same root gives the same result on the same builder again. -/
theorem compile_determined (custom : Empty → NodeId → ValueType → Program Empty Host TypedTerm)
    (fuel : Nat) (graph : GraphDescription) (config : Config) (output : ValueType) :
    ∃ result : Except CompileError (Outcome Fragment),
      ∀ (start : NodeId) (machine : Machine Empty Host), machine.builder.config = config →
        machine.builder.frames = [] →
        graph.compile custom fuel output start machine = result.map (Outcome.renumbered start) ∧
          ∀ root, (graph.buildRoot start).1 = .ok root →
            let build := Action.build (generate custom fuel) root output
            (build (build machine).2).1 = (build machine).1 := by
  by_cases some : Nonempty Host
  case neg => exact ⟨.error .endless, fun _ machine => absurd ⟨machine.host⟩ some⟩
  obtain ⟨host⟩ := some
  refine ⟨graph.compile custom fuel output 0 (.ofConfig config host), ?_⟩
  rintro start machine rfl plain
  have first := compile_renumbered custom fuel graph output start host plain
  refine ⟨first, fun root built => ?_⟩
  dsimp only
  -- the builder that is left has no frames either, and its configuration is the same
  have settings := build_settings custom fuel root output machine
  generalize (Action.build (generate custom fuel) root output machine).2 = later at settings ⊢
  have second := compile_renumbered custom fuel graph output start host (settings.2.trans plain)
  rw [settings.1, ← first] at second
  unfold GraphDescription.compile at second
  rw [built] at second
  exact Except.ok.inj second

def floatGraph : GraphDescription :=
  ⟨"1", ⟨"half", none, none⟩, .f32, .float (Number.Single.ofWord 0x3f000000) false⟩

/-- A builder on which the node with the id seven has declared something else. -/
def usedMachine : Machine Empty Unit :=
  ⟨((Builder.ofConfig .default).declareLocal 7 .vec3 "vec3f(1.0)").2, (), []⟩

theorem floatGraph_compiles_alike :
    let custom : Empty → NodeId → ValueType → Program Empty Unit TypedTerm :=
      fun content => content.elim
    usedMachine.builder.config = .default ∧ usedMachine.builder.frames = [] ∧
      ∃ result : Except CompileError (Outcome Fragment),
        floatGraph.compile custom 1 .vec4 7 usedMachine = result.map (Outcome.renumbered 7) ∧
        floatGraph.compile custom 1 .vec4 0 (.ofConfig .default ()) =
          result.map (Outcome.renumbered 0) := by
  intro custom
  obtain ⟨result, determined⟩ := compile_determined custom 1 floatGraph .default .vec4
  have used := determined 7 usedMachine rfl rfl
  have fresh := determined 0 (.ofConfig .default ()) rfl rfl
  exact ⟨rfl, rfl, result, used.1, fresh.1⟩

end ShadeTree
