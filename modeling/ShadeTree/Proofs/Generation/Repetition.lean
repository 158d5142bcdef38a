import ShadeTree.Proofs.Generation.Tables
import ShadeTree.Proofs.Generation.Soundness
import ShadeTree.Proofs.Program.Moments

/-!
Generating again.

A generation appends to the tables what it does not find in them, even if it fails afterwards. From
then on the same node finds everything, however many other declarations have come behind: it ends in
the same way again, and appends nothing.
-/

namespace ShadeTree

variable {Custom Host α β : Type}

/-! ### Searches in tables that grow -/

/-- A search in the table comes upon the entry at the place. -/
structure Finds (table : List α) (test : α → Bool) (place : Nat) (entry : α) : Prop where
  first : table.findIdx test = place
  lies : table[place]? = some entry

/-- A longer table has the entry at the same place. -/
theorem Finds.grown {table longer : List α} {test : α → Bool} {place : Nat} {entry : α}
    (finds : Finds table test place entry) (grown : table <+: longer) :
    Finds longer test place entry := by
  obtain ⟨rfl, found⟩ := finds
  obtain ⟨inside, equal⟩ := List.getElem?_eq_some_iff.mp found
  refine ⟨grown.findIdx_eq_of_findIdx_lt_length inside, ?_⟩
  rw [← equal]
  exact List.prefix_iff_getElem?.mp grown _ inside

/-- A search that came to the end comes upon what is appended there. -/
theorem finds_concat {table : List α} {test : α → Bool} {entry : α}
    (missing : table[table.findIdx test]? = none) (meets : test entry) :
    Finds (table ++ [entry]) test (table.findIdx test) entry := by
  have atEnd : table.findIdx test = table.length :=
    Nat.le_antisymm List.findIdx_le_length (List.getElem?_eq_none_iff.mp missing)
  have first : [entry].findIdx test = 0 := by simp [List.findIdx_cons, meets]
  constructor
  · rw [List.findIdx_append, if_neg (by omega), first, Nat.zero_add, atEnd]
  · rw [atEnd]
    exact List.getElem?_concat_length

namespace Builder

variable {builder later next : Builder Custom}

/-- Declaring comes upon a local with the name that it gives. -/
theorem declareLocal_finds (builder : Builder Custom) (owner : NodeId) (type : ValueType)
    (initializer : String) :
    let result := builder.declareLocal owner type initializer
    ∃ place declared, declared.name = result.1 ∧
      Finds result.2.locals (fun other => other.owner == owner) place declared := by
  unfold declareLocal
  dsimp only
  cases found : builder.locals[builder.localIndex owner]? with
  | some declared => exact ⟨_, declared, rfl, rfl, found⟩
  | none => exact ⟨_, _, rfl, finds_concat found (beq_self_eq_true owner)⟩

/-- What was declared once has the same name on every builder that is further on, and is not declared
a second time. -/
theorem declareLocal_again {owner : NodeId} {type : ValueType} {initializer : String}
    (further : later.Extends (builder.declareLocal owner type initializer).2) :
    later.declareLocal owner type initializer =
      ((builder.declareLocal owner type initializer).1, later) := by
  obtain ⟨place, declared, named, finds⟩ := builder.declareLocal_finds owner type initializer
  obtain ⟨found, known⟩ := finds.grown further.locals
  rw [← named]
  unfold declareLocal localIndex
  simp only [found, known]

/-- Registering comes upon a binding of the dimension at the index that it gives. -/
theorem registerTexture_finds {name : String} {dimension : Dimension} {index : Nat}
    (registered : builder.registerTexture name dimension = .ok (index, next)) :
    ∃ binding, binding.dimension = dimension ∧
      Finds next.textures (fun other => other.name == name) index binding := by
  unfold registerTexture at registered
  dsimp only at registered
  cases found : builder.textures[builder.textureIndex name]? with
  | some binding =>
      simp only [found] at registered
      split at registered
      · rename_i agrees
        cases registered
        exact ⟨binding, agrees, rfl, found⟩
      · cases registered
  | none =>
      simp only [found] at registered
      cases registered
      exact ⟨⟨name, dimension⟩, rfl, finds_concat found (beq_self_eq_true name)⟩

/-- A texture that was registered has the same index later, and is not registered a second time. -/
theorem registerTexture_again {name : String} {dimension : Dimension} {index : Nat}
    (registered : builder.registerTexture name dimension = .ok (index, next))
    (further : later.Extends next) : later.registerTexture name dimension = .ok (index, later) := by
  obtain ⟨binding, agrees, finds⟩ := registerTexture_finds registered
  obtain ⟨found, known⟩ := finds.grown further.textures
  unfold registerTexture textureIndex
  simp only [found, known, agrees, if_true]

/-- A texture that was refused is refused for the same reason later. -/
theorem registerTexture_refused_again {name : String} {dimension : Dimension} {clash : DimensionClash}
    (refused : builder.registerTexture name dimension = .error clash)
    (further : later.Extends builder) : later.registerTexture name dimension = .error clash := by
  unfold registerTexture at refused
  dsimp only at refused
  cases found : builder.textures[builder.textureIndex name]? with
  | some binding =>
      simp only [found] at refused
      have finds : Finds builder.textures (fun other => other.name == name)
          (builder.textureIndex name) binding := ⟨rfl, found⟩
      obtain ⟨place, known⟩ := finds.grown further.textures
      unfold registerTexture textureIndex
      simp only [place, known]
      split at refused
      · cases refused
      · rename_i differs
        cases refused
        rw [if_neg differs]
  | none =>
      simp only [found] at refused
      cases refused

/-- Leaving a scope at once changes nothing. -/
theorem leave_enter (builder : Builder Custom) (frame : Frame Custom) :
    (builder.enter frame).leave builder = builder := by
  have same : Frames.truncate (frame :: builder.frames) builder.depth = builder.frames := by
    simp [Frames.truncate, depth]
  unfold leave enter push
  rw [same]

end Builder

/-! ### Actions -/

/-- The action appends to the declarations at most. On any builder that has them all it ends in the
same way again and changes nothing. -/
structure Action.Settles (action : Action Custom Host α) : Prop where
  grows (machine : Machine Custom Host) : (action machine).2.builder.Extends machine.builder
  again {machine later : Machine Custom Host} :
    later.builder.Extends (action machine).2.builder →
      (action later).1 = (action machine).1 ∧ (action later).2.builder = later.builder

namespace Action

theorem settles_done (value : α) : (done value : Action Custom Host α).Settles :=
  ⟨fun _ => .refl _, fun _ => ⟨rfl, rfl⟩⟩

theorem settles_abort (cause : Abort) : (abort cause : Action Custom Host α).Settles :=
  ⟨fun _ => .refl _, fun _ => ⟨rfl, rfl⟩⟩

theorem settles_exhausted : (exhausted : Action Custom Host α).Settles :=
  ⟨fun _ => .refl _, fun _ => ⟨rfl, rfl⟩⟩

theorem settles_note (event : Event) : (note event : Action Custom Host Unit).Settles :=
  ⟨fun _ => .refl _, fun _ => ⟨rfl, rfl⟩⟩

/-- An inspection settles if it sees the same on a builder that is further on. -/
theorem settles_inspect {look : Builder Custom → Host → α × Host}
    (sees : ∀ {builder later : Builder Custom} {host other : Host}, later.Extends builder →
      (look later other).1 = (look builder host).1) : (inspect look).Settles :=
  ⟨fun _ => .refl _, fun further => ⟨congrArg Outcome.done (sees further), rfl⟩⟩

/-- Declaring a local a second time changes nothing. -/
theorem settles_declareLocal (owner : NodeId) (type : ValueType) (initializer : String) :
    (declareLocal owner type initializer : Action Custom Host String).Settles where
  grows machine := machine.builder.declareLocal_extends owner type initializer
  again further := by
    have same := Builder.declareLocal_again further
    unfold declareLocal
    rw [same]
    exact ⟨rfl, rfl⟩

/-- Registering a texture a second time changes nothing. -/
theorem settles_registerTexture (name : String) (dimension : Dimension) :
    (registerTexture name dimension : Action Custom Host Nat).Settles where
  grows machine := by
    unfold registerTexture
    split
    · rename_i registered
      exact Builder.registerTexture_extends registered
    · exact .refl _
  again {machine later} further := by
    unfold registerTexture at further ⊢
    cases registered : machine.builder.registerTexture name dimension with
    | ok result =>
        simp only [registered] at further ⊢
        rw [Builder.registerTexture_again registered further]
        exact ⟨rfl, rfl⟩
    | error clash =>
        simp only [registered] at further ⊢
        rw [Builder.registerTexture_refused_again registered further]
        exact ⟨rfl, rfl⟩

/-- The first part settles on every builder that is further on than the whole. -/
theorem Settles.bind {action : Action Custom Host α} {next : α → Action Custom Host β}
    (first : action.Settles) (rest : ∀ answer, (next answer).Settles) : (action.bind next).Settles where
  grows machine := by
    rcases bind_cases action next machine with ⟨answer, _, continues⟩ | stops
    · rw [continues]
      exact ((rest answer).grows _).trans (first.grows machine)
    · rw [stops]
      exact first.grows machine
  again {machine later} further := by
    unfold Action.bind at further ⊢
    have again := @first.again machine later
    rcases ends : action machine with ⟨outcome, middle⟩
    rcases repeats : action later with ⟨ending, after⟩
    rw [ends, repeats] at again
    rw [ends] at further
    cases outcome with
    | done answer =>
        -- the later builder has what the first part leaves, since it has what the whole leaves
        obtain ⟨rfl, same⟩ := again (further.trans ((rest answer).grows middle))
        have onward : after.builder.Extends (next answer middle).2.builder := by
          rw [same]
          exact further
        obtain ⟨outcomes, kept⟩ := (rest answer).again onward
        exact ⟨outcomes, kept.trans same⟩
    | aborted cause | exhausted =>
        obtain ⟨rfl, same⟩ := again further
        exact ⟨rfl, same⟩

/-- The body starts again with its own frame on top of the same stack. -/
theorem Settles.within {body : Action Custom Host α} (inside : body.Settles) (frame : Frame Custom) :
    (Action.within frame body).Settles where
  grows machine := (inside.grows (machine.enter frame)).leave
  again {machine later} further := by
    have inner := inside.grows (machine.enter frame)
    have around := inner.leave
    have frames : later.builder.frames = machine.builder.frames := further.frames.trans around.frames
    -- so the body starts the second time on a builder that is further on than where it ended
    have onward : (later.enter frame).builder.Extends (body (machine.enter frame)).2.builder := by
      refine ⟨further.config, ?_, ?_, further.locals, further.textures⟩
      · rw [inner.frames]
        exact congrArg (frame :: ·) frames
      · rw [inner.floor]
        exact congrArg (fun frames => frames.length + 1) frames
    obtain ⟨outcome, kept⟩ := inside.again onward
    refine ⟨outcome, ?_⟩
    have left : (body (later.enter frame)).2.builder.leave later.builder = later.builder := by
      rw [kept]
      exact later.builder.leave_enter frame
    exact left

/-- The conversion of a result settles. -/
theorem settles_finish (node : NodeName) (output : ValueType) (expression : TypedTerm) :
    (finish node output expression : Action Custom Host TypedTerm).Settles := by
  unfold finish
  cases expression.coerce output with
  | ok converted => exact settles_done converted
  | error cause => exact settles_abort _

end Action

/-! ### The programs of built-in nodes -/

/-- The program settles whatever it is run for, if the nodes that it asks for do. -/
def Program.Settles (generateNode : Node Custom → ValueType → Action Custom Host TypedTerm)
    (program : Program Custom Host α) : Prop :=
  (program.run generateNode).Settles

namespace Program

variable {generateNode : Node Custom → ValueType → Action Custom Host TypedTerm}

/-- A program settles if its parts do. -/
theorem Settles.bind {program : Program Custom Host α} {rest : α → Program Custom Host β}
    (first : program.Settles generateNode) (follows : ∀ answer, (rest answer).Settles generateNode) :
    (program.bind rest).Settles generateNode := by
  unfold Settles
  rw [run_bind]
  exact Action.Settles.bind first follows

theorem settles_done (value : α) : (done value : Program Custom Host α).Settles generateNode :=
  Action.settles_done value

theorem settles_fail (error : GenerationError) :
    (fail error : Program Custom Host α).Settles generateNode :=
  Action.settles_abort _

theorem settles_config : (config : Program Custom Host Config).Settles generateNode :=
  (Action.settles_inspect fun further => further.config).bind Action.settles_done

/-- A look into the frames settles. -/
theorem settles_find (key : String) :
    (find? key : Program Custom Host (Option (Value Custom))).Settles generateNode := by
  refine (Action.settles_inspect fun further => ?_).bind Action.settles_done
  exact congrArg (Frames.find? key) further.frames

theorem settles_generated (settles : ∀ node output, (generateNode node output).Settles)
    (node : Node Custom) (output : ValueType) : (generated node output).Settles generateNode :=
  (settles node output).bind Action.settles_done

/-- A coercion settles. -/
theorem settles_ofCoercion (result : Except CoercionError α) :
    (ofCoercion result : Program Custom Host α).Settles generateNode := by
  cases result with
  | ok value => exact settles_done value
  | error cause => exact settles_fail _

theorem settles_literal (value : Number.Single) :
    (literal value : Program Custom Host String).Settles generateNode := by
  unfold literal
  cases value.literal? with
  | some text => exact settles_done text
  | none => exact settles_fail _

/-- Generating a value settles if generating nodes does. -/
theorem settles_value (settles : ∀ node output, (generateNode node output).Settles)
    (value : Value Custom) (output : ValueType) : (value.program output).Settles generateNode := by
  cases value with
  | node tree => exact settles_generated settles tree output
  | literal snippet => exact settles_ofCoercion _

end Program

namespace Node

open Program

variable {generateNode : Node Empty → ValueType → Action Empty Host TypedTerm}

/-- The program of a float settles. -/
theorem floatProgram_settles (id : NodeId) (value : Number.Single) (isConst : Bool) :
    (floatProgram id value isConst).Settles generateNode := by
  refine (settles_literal value).bind fun text => ?_
  cases isConst with
  | true => exact settles_done _
  | false =>
      have declares : (Program.declareLocal id .f32 text .done).Settles generateNode :=
        (Action.settles_declareLocal id .f32 text).bind Action.settles_done
      exact declares.bind fun _ => settles_done _

/-- The program of a reader settles if generating nodes does. -/
theorem readerProgram_settles (settles : ∀ node output, (generateNode node output).Settles)
    (key : String) (fallback : Node Empty) (output : ValueType) :
    (readerProgram key fallback output).Settles generateNode := by
  refine (settles_find key).bind fun found => ?_
  cases found with
  | some value => exact (Action.settles_note _).bind fun _ => settles_value settles value output
  | none => exact settles_generated settles fallback output

/-- The program of a sample settles if generating nodes does. -/
theorem sampleProgram_settles (settles : ∀ node output, (generateNode node output).Settles)
    (texture : String) : (sampleProgram texture).Settles generateNode := by
  have coordinates : coordinateProgram.Settles generateNode := by
    refine (settles_find uvKey).bind fun found => ?_
    cases found with
    | some value => exact settles_value settles value value.type
    | none => exact settles_config.bind fun _ => settles_done _
  have levels : roughnessProgram.Settles generateNode := by
    refine (settles_find roughnessKey).bind fun found => ?_
    cases found with
    | some value => exact settles_value settles value .f32
    | none => exact settles_done _
  refine coordinates.bind fun coordinate => ?_
  cases Dimension.ofCoordinate? coordinate.type with
  | none => exact settles_fail _
  | some dimension =>
      refine levels.bind fun roughness => settles_config.bind fun config => ?_
      refine (settles_literal config.envMaxMip).bind fun _ => ?_
      have registers : (Program.registerTexture texture dimension .done).Settles generateNode :=
        (Action.settles_registerTexture texture dimension).bind Action.settles_done
      exact registers.bind fun _ => settles_done _

/-- Both operands settle if generating nodes does. -/
theorem operandsProgram_settles (settles : ∀ node output, (generateNode node output).Settles)
    (left right : Node Empty) : (operandsProgram left right).Settles generateNode := by
  refine (settles_generated settles left _).bind fun first => ?_
  exact (settles_generated settles right _).bind fun second => settles_ofCoercion _

/-- The program of every built-in node settles if generating nodes does. -/
theorem program_settles (custom : Empty → NodeId → ValueType → Program Empty Host TypedTerm)
    (settles : ∀ node output, (generateNode node output).Settles) (node : Node Empty)
    (output : ValueType) : (node.program custom output).Settles generateNode := by
  cases node with
  | expression id snippet type => exact settles_done _
  | float id value isConst => exact floatProgram_settles id value isConst
  | normal id space => exact settles_config.bind fun _ => settles_done _
  | context id type overrides child =>
      have inside : ((generated child output).run generateNode).Settles :=
        settles_generated settles child output
      exact (inside.within overrides).bind Action.settles_done
  | reader id key fallback => exact readerProgram_settles settles key fallback output
  | sample id texture => exact sampleProgram_settles settles texture
  | binary id operation left right =>
      exact (operandsProgram_settles settles left right).bind fun _ => settles_done _
  | mix id left right factor =>
      refine (operandsProgram_settles settles left right).bind fun operands => ?_
      exact (settles_generated settles factor .f32).bind fun _ => settles_done _
  | custom id label type content => exact content.elim

end Node

/-! ### Generation -/

/-- By induction on the fuel. -/
theorem generate_settles (custom : Empty → NodeId → ValueType → Program Empty Host TypedTerm)
    (fuel : Nat) (node : Node Empty) (output : ValueType) :
    (generate custom fuel node output).Settles := by
  induction fuel generalizing node output with
  | zero => exact Action.settles_exhausted
  | succ fuel ih =>
      have program := Node.program_settles custom ih node output
      exact Action.Settles.bind program (Action.settles_finish node.name output)

/-- A node that is generated from outside, at a type and with some fuel. -/
structure Generation where
  fuel : Nat
  node : Node Empty
  output : ValueType

/-- One generation after the other, however they end. -/
def Machine.generateAll (custom : Empty → NodeId → ValueType → Program Empty Host TypedTerm)
    (machine : Machine Empty Host) (generations : List Generation) : Machine Empty Host :=
  generations.foldl
    (fun machine asked => (generate custom asked.fuel asked.node asked.output machine).2) machine

/-- Generations in a row only add to the tables. -/
theorem Machine.generateAll_extends
    (custom : Empty → NodeId → ValueType → Program Empty Host TypedTerm)
    (machine : Machine Empty Host) (generations : List Generation) :
    (machine.generateAll custom generations).builder.Extends machine.builder := by
  induction generations generalizing machine with
  | nil => exact .refl _
  | cons asked rest ih =>
      have first := generate_settles custom asked.fuel asked.node asked.output
      exact (ih _).trans (first.grows machine)

/-- A tree of built-in nodes that is generated again gives the same expression or the same error
again, and leaves the builder as it is, both right afterwards and after any other trees have been
generated in between. -/
theorem generation_stable (custom : Empty → NodeId → ValueType → Program Empty Host TypedTerm)
    (fuel : Nat) (node : Node Empty) (output : ValueType) (start : Machine Empty Host)
    (others : List Generation) :
    let first := generate custom fuel node output start
    let later := first.2.generateAll custom others
    let again := generate custom fuel node output later
    again.1 = first.1 ∧ again.2.builder = later.builder := by
  intro first later again
  have further : later.builder.Extends first.2.builder := first.2.generateAll_extends custom others
  exact (generate_settles custom fuel node output).again further

end ShadeTree
