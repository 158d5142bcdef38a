import ShadeTree.Proofs.Generation.Supply
import ShadeTree.Proofs.Likeness.Construction

/-!
How a construction counts.

A construction takes one id after the other, also if it fails in the end. The tree of a description
has all of the ids that its construction took, each once, and the root of any part of it took its id
last.
-/

namespace ShadeTree

variable {Custom α β : Type}

namespace Construction

/-! ### Ids that are taken -/

/-- A construction that counts from one id up to another takes the listed ids, in this order. -/
inductive Runs : {α : Type} → Construction α → NodeId → List NodeId →
    Except ConstructionError α → NodeId → Prop
  | pure {α : Type} (value : α) (next : NodeId) : Runs (pure value) next [] (.ok value) next
  | lift {α : Type} (result : Except ConstructionError α) (next : NodeId) :
      Runs (liftM result) next [] result next
  | throw {α : Type} (cause : ConstructionError) (next : NodeId) :
      Runs (throw cause : Construction α) next [] (.error cause) next
  | fresh (next : NodeId) : Runs fresh next [next] (.ok next) (next + 1)
  | adapt {α : Type} (change : ConstructionError → ConstructionError) {inner : Construction α}
      {next after : NodeId} {ids : List NodeId} {result : Except ConstructionError α}
      (runs : Runs inner next ids result after) :
      Runs (ExceptT.adapt change inner) next ids (result.mapError change) after
  | fail {α β : Type} {first : Construction α} (rest : α → Construction β) {next after : NodeId}
      {ids : List NodeId} {cause : ConstructionError} (fails : Runs first next ids (.error cause) after) :
      Runs (first >>= rest) next ids (.error cause) after
  | bind {α β : Type} {first : Construction α} {rest : α → Construction β}
      {next between after : NodeId} {ids others : List NodeId} {value : α}
      {result : Except ConstructionError β} (before : Runs first next ids (.ok value) between)
      (behind : Runs (rest value) between others result after) :
      Runs (first >>= rest) next (ids ++ others) result after

namespace Runs

variable {construction : Construction α} {next after : NodeId} {ids : List NodeId}
  {result : Except ConstructionError α}

/-- A construction that runs so gives the result and leaves the counter. -/
theorem run_eq (runs : Runs construction next ids result after) :
    construction.run next = (result, after) := by
  induction runs with
  | pure | throw | fresh => rfl
  | lift result => cases result <;> rfl
  | @adapt _ change inner next _ _ _ _ ih =>
      change ((inner.run next).1.mapError change, (inner.run next).2) = _
      rw [ih]
  | fail rest _ ih => rw [run_bind, ih]
  | bind _ _ first second =>
      rw [run_bind, first]
      exact second

/-- No id is left out or taken twice. -/
theorem range (runs : Runs construction next ids result after) :
    ids = List.range' next ids.length ∧ after = next + ids.length := by
  induction runs with
  | pure | throw | fresh | lift => exact ⟨rfl, rfl⟩
  | adapt _ _ ih => exact ih
  | fail _ _ ih => exact ih
  | bind _ _ first second =>
      obtain ⟨ids, rfl⟩ := first
      obtain ⟨others, rfl⟩ := second
      constructor
      · rw [List.length_append, ← List.range'_append_1, ← ids, ← others]
      · rw [List.length_append, Nat.add_assoc]

end Runs

/-- Constructions one after the other, whether they fail or not, and the ids that each takes. -/
inductive Series : NodeId → List (List NodeId) → NodeId → Prop
  | done (next : NodeId) : Series next [] next
  | more {α : Type} {construction : Construction α} {next between after : NodeId}
      {ids : List NodeId} {others : List (List NodeId)} {result : Except ConstructionError α}
      (first : Runs construction next ids result between) (rest : Series between others after) :
      Series next (ids :: others) after

/-- Of whatever is constructed, all ids differ. -/
theorem Series.range {next after : NodeId} {taken : List (List NodeId)}
    (series : Series next taken after) :
    taken.flatten = List.range' next taken.flatten.length := by
  induction series with
  | done => rfl
  | more first _ ih =>
      obtain ⟨ids, rfl⟩ := first.range
      rw [List.flatten_cons, List.length_append, ← List.range'_append_1, ← ids, ← ih]

/-! ### Constructions that succeed just if they can -/

/-- The end of a construction that has a result just if that is possible. -/
inductive Ending (possible : Prop) (holds : List NodeId → α → Prop) :
    List NodeId → Except ConstructionError α → Prop
  | ok {ids : List NodeId} {value : α} (allowed : possible) (given : holds ids value) :
      Ending possible holds ids (.ok value)
  | error {ids : List NodeId} {cause : ConstructionError} (impossible : ¬ possible) :
      Ending possible holds ids (.error cause)

/-- What holds of the result of a construction may depend on the ids that were taken. -/
def Builds (possible : Prop) (holds : List NodeId → α → Prop) (next : NodeId)
    (construction : Construction α) : Prop :=
  ∃ ids result after, Runs construction next ids result after ∧ Ending possible holds ids result

namespace Builds

variable {possible whole : Prop} {holds : List NodeId → α → Prop} {serves : List NodeId → β → Prop}
  {next : NodeId}

/-- A value is built without an id. -/
theorem pure {value : α} (allowed : possible) (given : holds [] value) :
    Builds possible holds next (pure value) :=
  ⟨[], _, next, .pure value next, .ok allowed given⟩

/-- A failure is no ending of what is possible. -/
theorem throw {cause : ConstructionError} (impossible : ¬ possible) :
    Builds possible holds next (throw cause) :=
  ⟨[], _, next, .throw cause next, .error impossible⟩

/-- A result that is known takes no id. -/
theorem lift (result : Except ConstructionError α) :
    Builds (∃ value, result = .ok value) (fun ids value => ids = [] ∧ result = .ok value) next
      (liftM result) := by
  refine ⟨[], result, next, .lift result next, ?_⟩
  cases result with
  | ok value => exact .ok ⟨value, rfl⟩ ⟨rfl, rfl⟩
  | error cause => exact .error nofun

/-- Another error makes no difference to the ids. -/
theorem adapt (change : ConstructionError → ConstructionError) {construction : Construction α}
    (builds : Builds possible holds next construction) :
    Builds possible holds next (ExceptT.adapt change construction) := by
  obtain ⟨ids, result, after, runs, ends⟩ := builds
  refine ⟨ids, _, after, .adapt change runs, ?_⟩
  cases ends with
  | ok allowed given => exact .ok allowed given
  | error impossible => exact .error impossible

/-- What follows may use that the first part has a result, and only takes greater ids. -/
theorem bind {first : Construction α} {rest : α → Construction β}
    (builds : Builds possible holds next first) (needs : whole → possible)
    (goesOn : ∀ ids value, possible → holds ids value → (∀ id ∈ ids, id < next + ids.length) →
      Builds whole (fun others result => serves (ids ++ others) result) (next + ids.length)
        (rest value)) :
    Builds whole serves next (first >>= rest) := by
  obtain ⟨ids, result, between, runs, ends⟩ := builds
  cases ends with
  | error impossible => exact ⟨ids, _, between, .fail rest runs, .error (mt needs impossible)⟩
  | ok allowed given =>
      obtain ⟨range, rfl⟩ := runs.range
      have smaller : ∀ id ∈ ids, id < next + ids.length := by
        intro id member
        rw [range] at member
        exact (List.mem_range'_1.mp member).2
      obtain ⟨others, last, after, follows, ends⟩ := goesOn ids _ allowed given smaller
      refine ⟨ids ++ others, last, after, .bind runs follows, ?_⟩
      cases ends with
      | ok allowed given => exact .ok allowed given
      | error impossible => exact .error impossible

/-- A node takes its id when all that it is made of is there. -/
theorem create {make : NodeId → α} (allowed : possible) (given : holds [next] (make next)) :
    Builds possible holds next (do return make (← fresh)) :=
  ⟨[next], _, next + 1, .bind (.fresh next) (.pure _ _), .ok allowed given⟩

end Builds

end Construction

/-! ### The ids of a tree -/

/-- The id of a value that is a node. -/
def Value.id? : Value Custom → Option NodeId
  | .node tree => some tree.id
  | .literal _ => none

/-- The ids of all nodes of a tree, those in overrides included. -/
def Node.ids (tree : Node Custom) : List NodeId :=
  tree.parts.filterMap Value.id?

/-- Every node has a greater id than the nodes below it, those in its overrides included. -/
def Value.Descend (parts : List (Value Custom)) : Prop :=
  ∀ node, .node node ∈ parts → ∀ below, .node below ∈ node.parts.tail → below.id < node.id

/-- The nodes among the parts bear the listed ids, each once. -/
structure Value.Bear (count : Nat) (ids : List NodeId) (parts : List (Value Custom)) : Prop where
  count : ids.length = count
  perm : (parts.filterMap Value.id?).Perm ids
  descend : Value.Descend parts

namespace Value.Bear

variable {count more : Nat} {ids others : List NodeId} {parts rest : List (Value Custom)}

/-- No parts bear no ids. -/
theorem none : Bear 0 [] ([] : List (Value Custom)) :=
  ⟨rfl, .refl _, nofun⟩

/-- Parts in a row bear the ids of both. -/
theorem append (first : Bear count ids parts) (second : Bear more others rest) :
    Bear (count + more) (ids ++ others) (parts ++ rest) where
  count := by rw [List.length_append, first.count, second.count]
  perm := by
    rw [List.filterMap_append]
    exact first.perm.append second.perm
  descend node member := by
    rcases List.mem_append.mp member with before | behind
    · exact first.descend node before
    · exact second.descend node behind

/-- A node whose id is greater than those below it. -/
theorem node {tree : Node Custom} {id : NodeId} (below : Bear count ids parts) (named : tree.id = id)
    (shape : tree.parts = .node tree :: parts) (greater : ∀ other ∈ ids, other < id) :
    Bear (count + 1) (ids ++ [id]) tree.parts where
  count := by rw [List.length_append, below.count, List.length_singleton]
  perm := by
    rw [shape, ← named]
    exact (below.perm.cons tree.id).trans (List.perm_append_singleton tree.id ids).symm
  descend other member inner found := by
    rw [shape] at member
    rcases List.mem_cons.mp member with same | deeper
    · obtain rfl := Value.node.inj same
      rw [shape, List.tail_cons] at found
      rw [named]
      apply greater
      apply below.perm.subset
      exact List.mem_filterMap.mpr ⟨_, found, rfl⟩
    · exact below.descend other deeper inner found

/-- A node with nothing below it bears its own id. -/
theorem leaf {tree : Node Custom} {id : NodeId} (named : tree.id = id)
    (shape : tree.parts = [.node tree]) : Bear 1 [id] tree.parts :=
  none.node named shape nofun

/-- A node under a key bears its ids in front of those of the other entries. -/
theorem entry {key : String} {tree : Node Custom} {frame : Frame Custom}
    (first : Bear count ids tree.parts) (second : Bear more others (Value.partsAll frame)) :
    Bear (count + more) (ids ++ others) (Value.partsAll ((key, .node tree) :: frame)) := by
  rw [Value.partsAll, Value.parts]
  exact first.append second

/-- A frame of one node bears the ids of the node. -/
theorem single {key : String} {tree : Node Custom} (only : Bear count ids tree.parts) :
    Bear count ids (Value.partsAll [(key, .node tree)]) := by
  rw [Value.partsAll, Value.partsAll, Value.parts, List.append_nil]
  exact only

/-- The order of the parts does not matter. -/
theorem swap (first : Bear count ids parts) (second : Bear more others rest) :
    Bear (count + more) (ids ++ others) (rest ++ parts) where
  count := (first.append second).count
  perm := by
    rw [List.filterMap_append]
    exact (second.perm.append first.perm).trans List.perm_append_comm
  descend node member := (first.append second).descend node (by simpa [or_comm] using member)

end Value.Bear

/-! ### Descriptions -/

/-- How many nodes a scope installs. -/
def PhysicalScope.installs : PhysicalScope → Nat
  | .radiance => 1
  | .irradiance => 2

namespace NodeDescription

mutual

/-- All nodes of a description, those in values included. -/
def nodes : NodeDescription → List NodeDescription
  | .physicalContext scope child => .physicalContext scope child :: child.nodes
  | .context values child type => .context values child type :: (valueNodes values ++ child.nodes)
  | .expression snippet type => [.expression snippet type]
  | .float value isConst => [.float value isConst]
  | .normal space => [.normal space]
  | .contextValue key fallback => .contextValue key fallback :: fallback.nodes
  | .environmentSample texture => [.environmentSample texture]
  | .math operation inputs => .math operation inputs :: inputNodes inputs

def valueNodes : List (String × NodeDescription) → List NodeDescription
  | [] => []
  | (_, value) :: rest => value.nodes ++ valueNodes rest

def inputNodes : List NodeDescription → List NodeDescription
  | [] => []
  | input :: rest => input.nodes ++ inputNodes rest

end

/-- The words of a node are understood, an operation has its inputs and a snippet is not blank. -/
def Understood : NodeDescription → Prop
  | .physicalContext name _ => ∃ scope, PhysicalScope.parse name = .ok scope
  | .normal name => ∃ space, NormalSpace.parse name = .ok space
  | .math name inputs => ∃ operation, Operation.parse name = .ok operation ∧
      inputs.length = operation.arity
  | .expression snippet _ => ∃ character ∈ snippet.toList, ¬ Text.isBlank character
  | .context .. | .float .. | .contextValue .. | .environmentSample .. => True

def WellFormed (description : NodeDescription) : Prop :=
  ∀ node ∈ description.nodes, node.Understood

/-- How many nodes stand for a node of a description: one, and those that a scope installs. -/
def copies : NodeDescription → Nat
  | .physicalContext name _ => ((PhysicalScope.ofName? name).map PhysicalScope.installs).getD 0 + 1
  | _ => 1

def idCount : List NodeDescription → Nat
  | [] => 0
  | node :: rest => idCount rest + node.copies

section

variable {scope key space operation snippet : String} {child : NodeDescription} {type : ValueType}
  {values : List (String × NodeDescription)} {inputs : List NodeDescription}
  {declared : Option ValueType}

/-- A physical context is well formed if its scope is known and its child is well formed. -/
theorem wellFormed_physicalContext : (physicalContext scope child).WellFormed ↔
    (∃ meaning, PhysicalScope.parse scope = .ok meaning) ∧ child.WellFormed :=
  List.forall_mem_cons

/-- A context is well formed if its values and its child are. -/
theorem wellFormed_context : (context values child declared).WellFormed ↔
    (∀ node ∈ valueNodes values, node.Understood) ∧ child.WellFormed := by
  change (∀ node ∈ context values child declared :: (valueNodes values ++ child.nodes),
    node.Understood) ↔ _
  rw [List.forall_mem_cons, List.forall_mem_append]
  exact and_iff_right True.intro

/-- An expression is well formed if its snippet is not blank. -/
theorem wellFormed_expression : (expression snippet type).WellFormed ↔
    Text.isBlankText snippet = false := by
  change (∀ node ∈ [expression snippet type], node.Understood) ↔ _
  rw [List.forall_mem_singleton, Text.isBlankText, List.all_eq_false]
  exact Iff.rfl

/-- A normal is well formed if its space is known. -/
theorem wellFormed_normal : (normal space).WellFormed ↔
    ∃ meaning, NormalSpace.parse space = .ok meaning :=
  List.forall_mem_singleton

/-- A reader is well formed if its fallback is. -/
theorem wellFormed_contextValue : (contextValue key child).WellFormed ↔ child.WellFormed := by
  change (∀ node ∈ contextValue key child :: child.nodes, node.Understood) ↔ _
  rw [List.forall_mem_cons]
  exact and_iff_right True.intro

/-- An operation is well formed if it is known, has as many operands as it takes, and these are well
formed. -/
theorem wellFormed_math : (math operation inputs).WellFormed ↔
    (∃ meaning, Operation.parse operation = .ok meaning ∧ inputs.length = meaning.arity) ∧
      ∀ node ∈ inputNodes inputs, node.Understood :=
  List.forall_mem_cons

/-- Descriptions in a row take the ids of both. -/
theorem idCount_append (nodes others : List NodeDescription) :
    idCount (nodes ++ others) = idCount nodes + idCount others := by
  induction nodes with
  | nil => rw [List.nil_append, idCount, Nat.zero_add]
  | cons node rest ih => rw [List.cons_append, idCount, idCount, ih, Nat.add_right_comm]

/-- A physical context takes an id for itself and for each node that it installs, beside those of
its child. -/
theorem idCount_physicalContext {meaning : PhysicalScope}
    (parsed : PhysicalScope.parse scope = .ok meaning) :
    idCount (physicalContext scope child).nodes = idCount child.nodes + (meaning.installs + 1) := by
  have named : PhysicalScope.ofName? scope = some meaning := by
    unfold PhysicalScope.parse at parsed
    split at parsed
    · rename_i found
      rw [found, Except.ok.inj parsed]
    · cases parsed
  change idCount (physicalContext scope child :: child.nodes) = _
  rw [idCount, copies, named]
  rfl

/-- A context takes one id beside those of its values and its child. -/
theorem idCount_context : idCount (context values child declared).nodes =
    idCount (valueNodes values) + idCount child.nodes + 1 := by
  change idCount (context values child declared :: (valueNodes values ++ child.nodes)) = _
  rw [idCount, idCount_append]
  rfl

/-- A reader takes one id beside those of its fallback. -/
theorem idCount_contextValue : idCount (contextValue key child).nodes = idCount child.nodes + 1 :=
  rfl

/-- An operation takes one id beside those of its operands. -/
theorem idCount_math :
    idCount (math operation inputs).nodes = idCount (inputNodes inputs) + 1 :=
  rfl

end

end NodeDescription

/-! ### Building -/

open Construction Value

variable {whole : Prop} {count : Nat} {ids : List NodeId} {next : NodeId}

/-- Ids of two parts are smaller than the id that is taken next. -/
theorem lt_of_mem_append {others : List NodeId} (before : ∀ id ∈ ids, id < next)
    (behind : ∀ id ∈ others, id < next + others.length) :
    ∀ id ∈ ids ++ others, id < next + others.length := by
  intro id member
  rcases List.mem_append.mp member with first | second
  · exact Nat.lt_of_lt_of_le (before id first) (Nat.le_add_right _ _)
  · exact behind id second

/-- The overrides of a scope bear the ids that they take. -/
theorem PhysicalScope.overrides_builds (scope : PhysicalScope) :
    Builds True (fun ids frame => Bear scope.installs ids (Value.partsAll frame)) next
      (scope.overrides : Construction (Frame Custom)) := by
  cases scope with
  | radiance =>
      have roughness : Bear 1 [next] (Node.expression next roughnessFactor .f32 : Node Custom).parts :=
        .leaf rfl (by rw [Node.parts])
      exact .create trivial roughness.single
  | irradiance =>
      have roughness : Bear 1 [next]
          (Node.float next (Number.Single.ofWord 0x3f800000) true : Node Custom).parts :=
        .leaf rfl (by rw [Node.parts])
      have uv : Bear 1 [next + 1] (Node.normal (next + 1) .world : Node Custom).parts :=
        .leaf rfl (by rw [Node.parts])
      exact ⟨_, _, _, .bind (.fresh next) (.bind (.fresh _) (.pure _ _)),
        .ok trivial (roughness.entry uv.single)⟩

/-- The nodes of a scope are made between the child and the context. -/
theorem PhysicalScope.wrap_builds (scope : PhysicalScope) {child : Node Custom} (allowed : whole)
    (inside : Bear count ids child.parts) (smaller : ∀ id ∈ ids, id < next) :
    Builds whole (fun others tree => Bear (count + (scope.installs + 1)) (ids ++ others) tree.parts)
      next (scope.wrap child) := by
  refine scope.overrides_builds.bind (fun _ => trivial) fun others frame _ installed less => ?_
  refine .create allowed ?_
  rw [← List.append_assoc, ← Nat.add_assoc]
  exact (inside.swap installed).node rfl (by rw [Node.parts]) (lt_of_mem_append smaller less)

/-- An operation on as many inputs as it takes. -/
theorem Operation.apply_builds (operation : Operation) {inputs : List (Node Custom)}
    (needs : whole → inputs.length = operation.arity)
    (allowed : inputs.length = operation.arity → whole)
    (inside : Bear count ids (inputs.flatMap Node.parts)) (smaller : ∀ id ∈ ids, id < next) :
    Builds whole (fun others tree => Bear (count + 1) (ids ++ others) tree.parts) next
      (operation.apply inputs) := by
  unfold Operation.apply
  split
  case h_4 notAdd notMultiply notMix =>
    refine .throw fun formed => ?_
    have arity := needs formed
    cases operation with
    | add =>
        obtain ⟨left, right, rfl⟩ := List.length_eq_two.mp arity
        exact notAdd left right rfl rfl
    | multiply =>
        obtain ⟨left, right, rfl⟩ := List.length_eq_two.mp arity
        exact notMultiply left right rfl rfl
    | mix =>
        obtain ⟨left, right, factor, rfl⟩ := List.length_eq_three.mp arity
        exact notMix left right factor rfl rfl
  all_goals
    refine .create (allowed rfl) (inside.node rfl ?_ smaller)
    simp [Node.parts]

namespace NodeDescription

mutual

/-- By induction on the description. -/
theorem build_builds : (description : NodeDescription) → (next : NodeId) →
    Builds description.WellFormed
      (fun ids tree => Bear (idCount description.nodes) ids tree.parts) next
      (description.build : Construction (Node Custom))
  | .physicalContext name child, next => by
      refine (Builds.lift (PhysicalScope.parse name)).bind
        (fun formed => (wellFormed_physicalContext.mp formed).1) ?_
      rintro _ scope known ⟨rfl, parsed⟩ -
      refine (build_builds child _).bind (fun formed => (wellFormed_physicalContext.mp formed).2) ?_
      intro ids tree formed inside smaller
      rw [idCount_physicalContext parsed]
      exact scope.wrap_builds (wellFormed_physicalContext.mpr ⟨known, formed⟩) inside smaller
  | .context values child type, next => by
      refine (buildValues_builds values next).bind
        (fun formed => (wellFormed_context.mp formed).1) ?_
      intro ids overrides known installed less
      refine (build_builds child _).bind (fun formed => (wellFormed_context.mp formed).2) ?_
      intro others tree formed inside smaller
      refine .create (wellFormed_context.mpr ⟨known, formed⟩) ?_
      rw [idCount_context, ← List.append_assoc]
      exact (installed.append inside).node rfl (by rw [Node.parts]) (lt_of_mem_append less smaller)
  | .expression snippet type, next => by
      unfold build
      split
      · rename_i blank
        exact .throw fun formed => by simp [wellFormed_expression.mp formed] at blank
      · rename_i solid
        exact .create (wellFormed_expression.mpr (Bool.not_eq_true _ ▸ solid))
          (.leaf rfl (by rw [Node.parts]))
  | .float value isConst, next =>
      .create (List.forall_mem_singleton.mpr True.intro) (.leaf rfl (by rw [Node.parts]))
  | .normal name, next => by
      refine (Builds.lift (NormalSpace.parse name)).bind wellFormed_normal.mp ?_
      rintro _ space known ⟨rfl, parsed⟩ -
      exact .create (wellFormed_normal.mpr known) (.leaf rfl (by rw [Node.parts]))
  | .contextValue key fallback, next => by
      refine (build_builds fallback next).bind wellFormed_contextValue.mp ?_
      intro ids tree formed inside smaller
      refine .create (wellFormed_contextValue.mpr formed) ?_
      rw [idCount_contextValue]
      exact inside.node rfl (by rw [Node.parts]) smaller
  | .environmentSample texture, next =>
      .create (List.forall_mem_singleton.mpr True.intro) (.leaf rfl (by rw [Node.parts]))
  | .math name inputs, next => by
      refine (Builds.lift (Operation.parse name)).bind
        (fun formed => (wellFormed_math.mp formed).1.imp fun _ both => both.1) ?_
      rintro _ operation known ⟨rfl, parsed⟩ -
      refine (buildInputs_builds inputs _).bind (fun formed => (wellFormed_math.mp formed).2) ?_
      rintro ids trees formed ⟨length, inside⟩ smaller
      rw [idCount_math]
      refine operation.apply_builds ?_ ?_ inside smaller
      · intro whole
        obtain ⟨⟨other, also, arity⟩, -⟩ := wellFormed_math.mp whole
        obtain rfl := Except.ok.inj (parsed.symm.trans also)
        exact length.trans arity
      · intro arity
        exact wellFormed_math.mpr ⟨⟨operation, parsed, length.symm.trans arity⟩, formed⟩

/-- The values of a context bear the ids that they take, if all of them are understood. -/
theorem buildValues_builds : (values : List (String × NodeDescription)) → (next : NodeId) →
    Builds (∀ node ∈ valueNodes values, node.Understood)
      (fun ids frame => Bear (idCount (valueNodes values)) ids (Value.partsAll frame)) next
      (buildValues values : Construction (Frame Custom))
  | [], next => .pure (by simp [valueNodes]) .none
  | (key, value) :: rest, next => by
      refine ((build_builds value next).adapt _).bind
        (fun formed node member => formed node (List.mem_append_left _ member)) ?_
      intro ids tree formed inside smaller
      refine (buildValues_builds rest _).bind
        (fun formed node member => formed node (List.mem_append_right _ member)) ?_
      intro others frame known installed less
      refine .pure (List.forall_mem_append.mpr ⟨formed, known⟩) ?_
      rw [valueNodes, idCount_append, List.append_nil]
      exact inside.entry installed

/-- The operands bear the ids that they take, if all of them are understood. -/
theorem buildInputs_builds : (inputs : List NodeDescription) → (next : NodeId) →
    Builds (∀ node ∈ inputNodes inputs, node.Understood)
      (fun ids trees => trees.length = inputs.length ∧
        Bear (idCount (inputNodes inputs)) ids (trees.flatMap Node.parts)) next
      (buildInputs inputs : Construction (List (Node Custom)))
  | [], next => .pure (by simp [inputNodes]) ⟨rfl, .none⟩
  | input :: rest, next => by
      refine (build_builds input next).bind
        (fun formed node member => formed node (List.mem_append_left _ member)) ?_
      intro ids tree formed inside smaller
      refine (buildInputs_builds rest _).bind
        (fun formed node member => formed node (List.mem_append_right _ member)) ?_
      rintro others trees known ⟨length, more⟩ less
      refine .pure (List.forall_mem_append.mpr ⟨formed, known⟩) ⟨congrArg (· + 1) length, ?_⟩
      rw [inputNodes, idCount_append, List.append_nil, List.flatMap_cons]
      exact inside.append more

end

/-- A description has a tree exactly if it is well-formed. Its construction takes the ids from the
next one on, as many as there are nodes, and those that scopes install, and gives each of them to one
node of the tree, greater ones to nodes further up. What it takes is never given out again, whether it
fails or not. -/
theorem build_numbers (description : NodeDescription) (next : NodeId) :
    ∃ ids result after,
      (description.build : Construction (Node Custom)).run next = (result, after) ∧
      (description.build : Construction (Node Custom)).Runs next ids result after ∧
      ids = List.range' next ids.length ∧ after = next + ids.length ∧
      ((∃ tree, result = .ok tree) ↔ description.WellFormed) ∧
      (∀ tree, result = .ok tree →
        ids.length = idCount description.nodes ∧ tree.ids.Perm ids ∧ Value.Descend tree.parts) ∧
      ∀ later taken last, after ≤ later → Series later taken last →
        ∀ id ∈ ids, id ∉ taken.flatten := by
  obtain ⟨ids, result, after, runs, ends⟩ := @build_builds Custom description next
  obtain ⟨range, stops⟩ := runs.range
  refine ⟨ids, result, after, runs.run_eq, runs, range, stops, ?_, ?_, ?_⟩
  · cases ends with
    | ok formed bears => exact ⟨fun _ => formed, fun _ => ⟨_, rfl⟩⟩
    | error malformed => exact ⟨nofun, fun formed => absurd formed malformed⟩
  · rintro tree rfl
    cases ends with
    | ok formed bears => exact ⟨bears.count, bears.perm, bears.descend⟩
  · intro later taken last follows series id member again
    rw [range] at member
    rw [series.range] at again
    have below := (List.mem_range'_1.mp member).2
    have above := (List.mem_range'_1.mp again).1
    rw [stops] at follows
    exact Nat.not_lt_of_le (Nat.le_trans follows above) below

end NodeDescription

/-- A sample under irradiance, within a context that installs a tint. -/
def glassDescription : NodeDescription :=
  .context [("tint", .float (Number.Single.ofWord 0x3f800000) true)]
    (.physicalContext "irradiance" (.environmentSample "sky")) none

def glassTree : Node Empty :=
  .context 12 none [("tint", .node (.float 7 (Number.Single.ofWord 0x3f800000) true))]
    (.context 11 (some .vec3)
      [(roughnessKey, .node (.float 9 (Number.Single.ofWord 0x3f800000) true)),
        (uvKey, .node (.normal 10 .world))]
      (.sample 8 "sky"))

/-- The sum lacks an input, but its float has taken an id before that is seen. -/
def brokenDescription : NodeDescription :=
  .math "add" [.float (Number.Single.ofWord 0) false]

/-- The glass takes six ids, and the broken sum takes one before it fails. -/
theorem glass_numbers :
    (glassDescription.build : Construction (Node Empty)).run 7 = (.ok glassTree, 13) ∧
      glassDescription.WellFormed ∧ glassTree.ids.Perm [7, 8, 9, 10, 11, 12] ∧
      Value.Descend glassTree.parts ∧
      (brokenDescription.build : Construction (Node Empty)).run 13 =
        (.error (.wrongArity .add 1), 14) ∧
      ¬ brokenDescription.WellFormed := by
  have built : (glassDescription.build : Construction (Node Empty)).run 7 = (.ok glassTree, 13) := rfl
  have broken : (brokenDescription.build : Construction (Node Empty)).run 13 =
      (.error (.wrongArity .add 1), 14) := rfl
  obtain ⟨ids, result, after, ran, -, range, stops, formed, numbers, -⟩ :=
    @NodeDescription.build_numbers Empty glassDescription 7
  obtain ⟨_, failure, _, failed, -, -, -, malformed, -⟩ :=
    @NodeDescription.build_numbers Empty brokenDescription 13
  obtain ⟨rfl, rfl⟩ := Prod.mk.inj (built.symm.trans ran)
  obtain ⟨rfl, -⟩ := Prod.mk.inj (broken.symm.trans failed)
  obtain ⟨count, perm, descend⟩ := numbers glassTree rfl
  have six : NodeDescription.idCount glassDescription.nodes = 6 := by decide
  rw [count, six] at range
  rw [range] at perm
  exact ⟨built, formed.mp ⟨_, rfl⟩, perm, descend, broken, fun whole => nomatch malformed.mpr whole⟩

end ShadeTree
