import ShadeTree.Compilation
import ShadeTree.Proofs.Generation.Calls
import ShadeTree.Proofs.Program.Contract
import ShadeTree.Proofs.Program.Fuel
import Mathlib.Data.Nat.Basic
import Mathlib.Order.Basic

/-!
Generation ends if the override keys are acyclic.

A reader goes on with a value from the stack, which may be larger than the reader and is generated under
all the frames that the reader sees. But the keys that the value reads are of lower rank than the one
under which it was found, so that fewer overrides are ahead.
-/

namespace ShadeTree

variable {Host : Type}

/-! ### Ranks -/

section

variable {Rank : Type} [Preorder Rank] (rank : String → Rank)

/-- The values only read keys of lower rank than those under which they are installed. -/
def Ranked (entries : List (String × Value Empty)) : Prop :=
  ∀ entry ∈ entries, ∀ key ∈ entry.2.reads, rank key < rank entry.1

open Classical in
/-- How many of the entries can still be met by readers of the given keys. -/
noncomputable def ahead (entries : List (String × Value Empty)) (keys : List String) : Nat :=
  entries.countP fun entry => decide (∃ key ∈ keys, rank entry.1 ≤ rank key)

variable {rank} {entries : List (String × Value Empty)}

/-- More keys have more entries ahead of them. -/
theorem ahead_mono {keys others : List String} (subset : keys ⊆ others) :
    ahead rank entries keys ≤ ahead rank entries others := by
  refine List.countP_mono_left fun entry _ met => ?_
  simp only [decide_eq_true_eq] at met ⊢
  obtain ⟨key, member, low⟩ := met
  exact ⟨key, subset member, low⟩

/-- A value meets no entry that its reader could not meet, and not the one in which it lies. -/
theorem ahead_lt (ranked : Ranked rank entries) {entry : String × Value Empty}
    (member : entry ∈ entries) {keys : List String} (read : entry.1 ∈ keys) :
    ahead rank entries entry.2.reads < ahead rank entries keys := by
  have lower := ranked entry member
  have still (other : String × Value Empty) (met : ∃ key ∈ entry.2.reads, rank other.1 ≤ rank key) :
      ∃ key ∈ keys, rank other.1 ≤ rank key := by
    obtain ⟨key, inside, low⟩ := met
    exact ⟨entry.1, read, low.trans (lower key inside).le⟩
  have gone : ¬∃ key ∈ entry.2.reads, rank entry.1 ≤ rank key :=
    fun ⟨key, inside, low⟩ => (lower key inside).not_ge low
  have met : ∃ key ∈ keys, rank entry.1 ≤ rank key := ⟨entry.1, read, le_rfl⟩
  unfold ahead
  obtain ⟨before, after, rfl⟩ := List.append_of_mem member
  rw [List.countP_append, List.countP_append, List.countP_cons_of_neg (by simpa using gone),
    List.countP_cons_of_pos (by simpa using met)]
  refine Nat.add_lt_add_of_le_of_lt ?_ (Nat.lt_succ_of_le ?_)
  all_goals exact List.countP_mono_left fun other _ => by simpa using still other

/-- The size of a node, with the largest possible size for each value that is ahead of it. -/
noncomputable def Call.weight (rank : String → Rank) (call root : Call) : Nat :=
  call.node.size + root.size * ahead rank root.installs call.node.reads

/-- Every call weighs less than the one that it comes from. -/
theorem Calls.weight_lt {root call other : Call} (ranked : Ranked rank root.installs)
    (within : call.installs ⊆ root.installs) (calls : Calls call other) :
    other.weight rank root < call.weight rank root := by
  unfold Call.weight
  cases calls.onward with
  | part smaller frames =>
      have few : ahead rank root.installs other.node.reads ≤ ahead rank root.installs call.node.reads :=
        ahead_mono smaller.reads
      have bound := Nat.mul_le_mul_left root.size few
      have less := smaller.size
      omega
  | @found key read frames lies =>
      have lying : (key, Value.node other.node) ∈ root.installs :=
        within (List.mem_append_left _ (lies (.head _)))
      have fewer : ahead rank root.installs other.node.reads < ahead rank root.installs call.node.reads :=
        ahead_lt ranked lying read
      have small : other.node.size ≤ root.size := Call.size_of_installs lying
      have positive := call.node.size_pos
      -- the value may be as large as the root, but its own entry is no longer ahead
      calc other.node.size + root.size * ahead rank root.installs other.node.reads
          ≤ root.size * (ahead rank root.installs other.node.reads + 1) := by
            rw [Nat.mul_succ]
            omega
        _ ≤ root.size * ahead rank root.installs call.node.reads := Nat.mul_le_mul_left _ fewer
        _ < call.node.size + root.size * ahead rank root.installs call.node.reads := by omega

/-- How deep calls can lie in each other. -/
def Call.depth (root : Call) : Nat :=
  root.size * (root.values + 1)

/-- The weight of a call is within its depth. -/
theorem Call.weight_le_depth (root : Call) : root.weight rank root ≤ root.depth := by
  have few : ahead rank root.installs root.node.reads ≤ root.values := by
    rw [← root.length_installs]
    exact List.countP_le_length
  have bound := Nat.mul_le_mul_left root.size few
  have small : root.node.size ≤ root.size := Nat.le_add_left _ _
  unfold weight depth
  rw [Nat.mul_succ]
  omega

/-- By induction on a bound of the weight. -/
theorem Calls.acc {root : Call} (ranked : Ranked rank root.installs) :
    Acc (fun later earlier => Calls earlier later) root := by
  have bounded : ∀ (bound : Nat) (call : Call), call.installs ⊆ root.installs →
      call.weight rank root < bound → Acc (fun later earlier => Calls earlier later) call := by
    intro bound
    induction bound with
    | zero => exact fun _ _ light => absurd light (Nat.not_lt_zero _)
    | succ bound ih =>
        intro call within light
        refine .intro call fun other calls => ?_
        have lighter := calls.weight_lt ranked within
        exact ih other (List.Subset.trans calls.installs_subset within) (by omega)
  exact bounded _ root (fun _ member => member) (Nat.lt_succ_self _)

end

/-! ### The programs of built-in nodes -/

/-- The program of a node may ask for what its call goes on with, and fail for any reason. -/
def Call.contract (call : Call) : Contract Empty where
  asks around asked _ := Calls call ⟨around.frames, asked⟩
  fails _ := True

namespace Program

variable {call : Call} {around : Surroundings Empty}

/-- A literal asks for nothing. -/
theorem literal_meets (value : Number.Single) :
    (literal value : Program Empty Host String).Meets call.contract around fun _ => True := by
  unfold literal
  split <;> trivial

/-- A coercion asks for nothing. -/
theorem ofCoercion_meets {α : Type} (result : Except CoercionError α) :
    (ofCoercion result : Program Empty Host α).Meets call.contract around fun _ => True := by
  cases result <;> trivial

/-- A value that was found is asked for within the contract. -/
theorem value_meets {key : String} {value : Value Empty}
    (found : some value = around.frames.find? key)
    (calls : ∀ tree, around.frames.find? key = some (.node tree) → Calls call ⟨around.frames, tree⟩)
    (output : ValueType) :
    (value.program output : Program Empty Host TypedTerm).Meets call.contract around
      fun _ => True := by
  cases value with
  | node tree => exact ⟨calls tree found.symm, fun _ _ => trivial⟩
  | literal snippet => exact ofCoercion_meets _

/-- Operands are asked for within the contract. -/
theorem operands_meets {left right : Node Empty} (lefts : Calls call ⟨around.frames, left⟩)
    (rights : Calls call ⟨around.frames, right⟩) :
    (Node.operandsProgram left right : Program Empty Host _).Meets call.contract around
      fun _ => True := by
  refine Meets.bind (generated_meets lefts) fun first _ => ?_
  exact Meets.bind (generated_meets rights) fun second _ => ofCoercion_meets _

end Program

namespace Node

open Program

/-- A float asks for nothing. -/
theorem float_meets {call : Call} {around : Surroundings Empty} (id : NodeId) (value : Number.Single)
    (isConst : Bool) :
    (floatProgram id value isConst : Program Empty Host TypedTerm).Meets call.contract around
      fun _ => True := by
  refine (literal_meets value).bind fun text _ => ?_
  cases isConst with
  | true => trivial
  | false => exact fun _ => trivial

/-- A reader asks for what it finds or for its fallback. -/
theorem reader_meets {config : Config} {frames : Frames Empty} (id : NodeId) (key : String)
    (fallback : Node Empty) (output : ValueType) :
    (readerProgram key fallback output : Program Empty Host TypedTerm).Meets
      (Call.contract ⟨frames, .reader id key fallback⟩) ⟨config, frames⟩ fun _ => True := by
  refine (find_meets key).bind fun found same => ?_
  cases found with
  | none => exact ⟨.fallback same.symm, fun _ _ => trivial⟩
  | some value => exact value_meets same (fun tree lies => .override lies) output

/-- A sample asks for what it finds for its coordinate and its roughness. -/
theorem sample_meets {config : Config} {frames : Frames Empty} (id : NodeId) (texture : String) :
    (sampleProgram texture : Program Empty Host TypedTerm).Meets
      (Call.contract ⟨frames, .sample id texture⟩) ⟨config, frames⟩ fun _ => True := by
  have coordinates : (coordinateProgram : Program Empty Host TypedTerm).Meets
      (Call.contract ⟨frames, .sample id texture⟩) ⟨config, frames⟩ fun _ => True := by
    refine (find_meets uvKey).bind fun found same => ?_
    cases found with
    | none => exact fun _ _ _ => trivial
    | some value => exact value_meets same (fun tree lies => .sampled (.head _) lies) _
  have levels : (roughnessProgram : Program Empty Host TypedTerm).Meets
      (Call.contract ⟨frames, .sample id texture⟩) ⟨config, frames⟩ fun _ => True := by
    refine (find_meets roughnessKey).bind fun found same => ?_
    cases found with
    | none => trivial
    | some value => exact value_meets same (fun tree lies => .sampled (.tail _ (.head _)) lies) _
  refine coordinates.bind fun coordinate _ => ?_
  split
  · trivial
  · refine levels.bind fun roughness _ => config_meets.bind fun _ _ => ?_
    refine (literal_meets _).bind fun _ _ => ?_
    exact ⟨fun _ => trivial, fun _ => trivial⟩

/-- The program of a node asks for nothing else than its call goes on with. -/
theorem program_meets (custom : Empty → NodeId → ValueType → Program Empty Host TypedTerm)
    (config : Config) (frames : Frames Empty) (node : Node Empty) (output : ValueType) :
    (node.program custom output).Meets (Call.contract ⟨frames, node⟩) ⟨config, frames⟩
      fun _ => True := by
  cases node with
  | expression id snippet type => trivial
  | float id value isConst => exact float_meets id value isConst
  | normal id space => exact fun _ _ _ => trivial
  | context id type overrides child => exact ⟨.child, fun _ _ => trivial⟩
  | reader id key fallback => exact reader_meets id key fallback output
  | sample id texture => exact sample_meets id texture
  | binary id operation left right =>
      have operands : (operandsProgram left right : Program Empty Host _).Meets
          (Call.contract ⟨frames, .binary id operation left right⟩) ⟨config, frames⟩ fun _ => True :=
        operands_meets (.operand (.head _)) (.operand (.tail _ (.head _)))
      exact operands.bind fun _ _ => trivial
  | mix id left right factor =>
      have operands : (operandsProgram left right : Program Empty Host _).Meets
          (Call.contract ⟨frames, .mix id left right factor⟩) ⟨config, frames⟩ fun _ => True :=
        operands_meets (.operand (.head _)) (.operand (.tail _ (.head _)))
      refine operands.bind fun _ _ => ?_
      exact ⟨.operand (.tail _ (.tail _ (.head _))), fun _ _ => trivial⟩
  | custom id label type content => exact content.elim

end Node

/-! ### Generation -/

/-- With as much fuel as the weight of a call, generation ends; by induction on the fuel. -/
theorem generate_meets {Rank : Type} [Preorder Rank] {rank : String → Rank} {root : Call}
    (ranked : Ranked rank root.installs)
    (custom : Empty → NodeId → ValueType → Program Empty Host TypedTerm) (config : Config)
    {fuel : Nat} {call : Call} (within : call.installs ⊆ root.installs)
    (light : call.weight rank root ≤ fuel) (output : ValueType) :
    (generate custom fuel call.node output).Meets (fun _ => True) ⟨config, call.frames⟩
      fun expression => expression.type = output := by
  induction fuel generalizing call config output with
  | zero =>
      have positive : 0 < call.weight rank root :=
        Nat.lt_of_lt_of_le call.node.size_pos (Nat.le_add_right _ _)
      omega
  | succ fuel ih =>
      obtain ⟨frames, node⟩ := call
      have asked := Node.program_meets custom config frames node output
      refine Action.Meets.bind (asked.run fun around other output calls => ?_) fun expression _ => ?_
      · have lighter := calls.weight_lt ranked within
        have known := List.Subset.trans calls.installs_subset within
        exact ih around.config known (by omega) output
      · exact Action.Meets.finish (fun _ _ _ => trivial) _ output expression

/-- The end with a value or an error. -/
def Outcome.ofResult {α : Type} : Except GenerationError α → Outcome α
  | .ok value => .done value
  | .error error => .aborted (.failed error)

/-- An outcome within bounds is a result. -/
theorem Outcome.Within.result {α : Type} {fails : GenerationError → Prop} {gives : α → Prop}
    {outcome : Outcome α} (within : outcome.Within fails gives) :
    ∃ result, outcome = .ofResult result := by
  cases within with
  | @done value => exact ⟨.ok value, rfl⟩
  | @failed error => exact ⟨.error error, rfl⟩

/-- From the depth of the call on, the fuel does not matter. -/
theorem generate_ends {Rank : Type} [Preorder Rank] {rank : String → Rank} {call : Call}
    (ranked : Ranked rank call.installs)
    (custom : Empty → NodeId → ValueType → Program Empty Host TypedTerm) (output : ValueType)
    {machine : Machine Empty Host} (placed : machine.builder.frames = call.frames) :
    ∃ result last, ∀ fuel, call.depth ≤ fuel →
      generate custom fuel call.node output machine = (.ofResult result, last) := by
  have meets := generate_meets ranked custom machine.builder.config (fun _ member => member)
    (Call.weight_le_depth call) output
  have around : machine.builder.surroundings = ⟨machine.builder.config, call.frames⟩ :=
    congrArg (Surroundings.mk machine.builder.config) placed
  obtain ⟨result, ends⟩ := (meets machine around).1.result
  -- more fuel keeps an end that is not exhausted
  refine ⟨result, (generate custom call.depth call.node output machine).2, fun fuel enough => ?_⟩
  have same := generate_approximates custom enough call.node output machine
  rw [same (by rw [ends]; cases result <;> simp [Outcome.ofResult])]
  exact Prod.ext ends rfl

/-- Generation ends, with an expression or an error, if there is a rank of keys such that every value
that is installed under a key, in the frames or by a context at any depth, only reads keys of lower
rank. The calls of a node are well founded, and from their depth on the result does not depend on the
fuel. Values are generated to an end likewise. -/
theorem generation_terminates {Rank : Type} [Preorder Rank] (rank : String → Rank)
    (custom : Empty → NodeId → ValueType → Program Empty Host TypedTerm) (frames : Frames Empty) :
    (∀ node : Node Empty, Ranked rank (frames.installs ++ node.installs) →
      Acc (fun later earlier => Calls earlier later) ⟨frames, node⟩ ∧
      ∀ (output : ValueType) (machine : Machine Empty Host), machine.builder.frames = frames →
        ∃ result last, ∀ fuel, Call.depth ⟨frames, node⟩ ≤ fuel →
          generate custom fuel node output machine = (.ofResult result, last)) ∧
    (∀ value : Value Empty, Ranked rank (frames.installs ++ value.installs) →
      ∀ (output : ValueType) (machine : Machine Empty Host), machine.builder.frames = frames →
        ∃ result last enough, ∀ fuel, enough ≤ fuel →
          (value.program output).run (generate custom fuel) machine = (.ofResult result, last)) := by
  constructor
  · intro node ranked
    refine ⟨Calls.acc ranked, fun output machine placed => ?_⟩
    have call : Ranked rank (Call.installs ⟨frames, node⟩) := ranked
    exact generate_ends call custom output placed
  · intro value ranked output machine placed
    cases value with
    | node tree =>
        have call : Ranked rank (Call.installs ⟨frames, tree⟩) := ranked
        obtain ⟨result, last, ends⟩ := generate_ends call custom output placed
        refine ⟨result, last, Call.depth ⟨frames, tree⟩, fun fuel enough => ?_⟩
        have run : (Value.program output (.node tree)).run (generate custom fuel) =
            generate custom fuel tree output := Action.bind_done _
        rw [run, ends fuel enough]
    | literal snippet =>
        cases converted : snippet.typed.coerce output with
        | ok expression =>
            refine ⟨.ok expression, machine, 0, fun fuel _ => ?_⟩
            simp only [Value.program, converted]
            rfl
        | error cause =>
            refine ⟨.error (.coercion cause), machine, 0, fun fuel _ => ?_⟩
            simp only [Value.program, converted]
            rfl

/-- The sheen reads the tint, which reads the gloss. -/
def sheenTree : Node Empty :=
  .context 4 none [("sheen", .node (.reader 1 "tint" (.normal 0 .world)))]
    (.reader 3 "sheen" (.normal 2 .world))

def glossFrames : Frames Empty :=
  [[("gloss", .literal ⟨"0.5", .f32, true⟩),
    ("tint", .node (.reader 6 "gloss" (.expression 5 "0.25" .f32)))]]

def sheenRank (key : String) : Nat :=
  if key = "sheen" then 2 else if key = "tint" then 1 else 0

/-- The sheen is ranked, so that its generation ends. -/
theorem sheenTree_terminates :
    let machine : Machine Empty Unit := ⟨⟨.default, glossFrames, 0, [], []⟩, (), []⟩
    Ranked sheenRank (glossFrames.installs ++ sheenTree.installs) ∧
      ∃ result last, ∀ fuel, Call.depth ⟨glossFrames, sheenTree⟩ ≤ fuel →
        generate (fun content => content.elim) fuel sheenTree .vec3 machine =
          (.ofResult result, last) := by
  intro machine
  have ranked : Ranked sheenRank (glossFrames.installs ++ sheenTree.installs) := by
    unfold Ranked
    decide
  refine ⟨ranked, ?_⟩
  exact ((generation_terminates sheenRank _ glossFrames).1 sheenTree ranked).2 .vec3 machine rfl

/-! ### Compilations -/

/-- The fuel of a compilation is enough for its root. -/
theorem Compilation.depth_le_fuel (compilation : Compilation) :
    Call.depth ⟨compilation.machine.builder.frames, compilation.root⟩ ≤ compilation.fuel := by
  have size : compilation.size =
      Call.size ⟨compilation.machine.builder.frames, compilation.root⟩ := Frames.foldl_eq_total _ _ _
  have values : compilation.values =
      Call.values ⟨compilation.machine.builder.frames, compilation.root⟩ :=
    Frames.foldl_eq_total _ _ _
  unfold Call.depth Compilation.fuel
  rw [size, values]
  exact Nat.mul_le_mul_left _ (Nat.succ_le_of_lt Nat.lt_two_pow_self)

/-- A compilation with acyclic keys is never taken for an endless one. -/
theorem Compilation.run_ne_endless {Rank : Type} [Preorder Rank] {rank : String → Rank}
    (compilation : Compilation)
    (ranked : Ranked rank
      (compilation.machine.builder.frames.installs ++ compilation.root.installs)) :
    compilation.run.1 ≠ .error .endless := by
  let call : Call := ⟨compilation.machine.builder.frames, compilation.root⟩
  have keys : Ranked rank call.installs := ranked
  let start := compilation.machine.compiling compilation.root compilation.output
  have placed : start.builder.frames = call.frames := rfl
  obtain ⟨result, last, ends⟩ :=
    generate_ends keys (fun content => content.elim) compilation.output placed
  have ran : generate (fun content => content.elim) compilation.fuel compilation.root
      compilation.output start = (.ofResult result, last) :=
    ends compilation.fuel compilation.depth_le_fuel
  unfold start Machine.compiling at ran
  unfold run Action.build
  dsimp only
  rw [ran]
  cases result with
  | ok expression => simp [Outcome.ofResult]
  | error cause => simp [Outcome.ofResult, Action.fail, Action.abort]

end ShadeTree
