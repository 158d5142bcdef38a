import ShadeTree.Proofs.Generation.Conversion
import ShadeTree.Proofs.Program.Invariant
import ShadeTree.Proofs.Scope.Balance

/-!
Contracts of programs.

A contract says which nodes a program may ask for and for which reasons it may fail, as long as the
builder has a certain configuration and certain frames. A program that meets it comes to an end, if
the nodes that it may ask for do.
-/

namespace ShadeTree

variable {Custom Host α β : Type}

/-- What a builder has besides its declarations. -/
structure Surroundings (Custom : Type) where
  config : Config
  frames : Frames Custom

namespace Surroundings

def enter (around : Surroundings Custom) (frame : Frame Custom) : Surroundings Custom :=
  { around with frames := frame :: around.frames }

end Surroundings

def Builder.surroundings (builder : Builder Custom) : Surroundings Custom :=
  ⟨builder.config, builder.frames⟩

/-- The surroundings of a builder are its config and its frames. -/
theorem Builder.surroundings_eq {before after : Builder Custom} (config : after.config = before.config)
    (frames : after.frames = before.frames) : after.surroundings = before.surroundings := by
  unfold surroundings
  rw [config, frames]

structure Contract (Custom : Type) where
  /-- Where which nodes may be asked for, and as what type. -/
  asks : Surroundings Custom → Node Custom → ValueType → Prop
  fails : GenerationError → Prop

/-! ### Actions -/

/-- An end with an admissible value or an admissible error, and neither a panic nor exhaustion. -/
inductive Outcome.Within (fails : GenerationError → Prop) (gives : α → Prop) : Outcome α → Prop
  | done {value : α} (given : gives value) : Within fails gives (.done value)
  | failed {error : GenerationError} (failed : fails error) :
      Within fails gives (.aborted (.failed error))

/-- The action comes to an admissible end in the given surroundings, and leaves them as they were. -/
def Action.Meets (fails : GenerationError → Prop) (around : Surroundings Custom) (gives : α → Prop)
    (action : Action Custom Host α) : Prop :=
  ∀ machine, machine.builder.surroundings = around →
    (action machine).1.Within fails gives ∧ (action machine).2.builder.surroundings = around

namespace Action.Meets

variable {fails : GenerationError → Prop} {around : Surroundings Custom} {gives : α → Prop}
  {others : β → Prop}

theorem done {value : α} (given : gives value) :
    (Action.done value : Action Custom Host α).Meets fails around gives :=
  fun _ placed => ⟨.done given, placed⟩

theorem fail {error : GenerationError} (failed : fails error) :
    (Action.fail error : Action Custom Host α).Meets fails around gives :=
  fun _ placed => ⟨.failed failed, placed⟩

/-- An action meets a contract when both of its parts do, one after the other. -/
theorem bind {action : Action Custom Host α} {next : α → Action Custom Host β}
    (first : action.Meets fails around gives)
    (rest : ∀ answer, gives answer → (next answer).Meets fails around others) :
    (action.bind next).Meets fails around others := by
  intro machine placed
  have ends := first machine placed
  unfold Action.bind
  rcases eq : action machine with ⟨outcome, after⟩
  rw [eq] at ends
  obtain ⟨within, restored⟩ := ends
  cases within with
  | done given => exact rest _ given after restored
  | failed error => exact ⟨.failed error, restored⟩

/-- Looking around meets a contract when all that can be seen in the surroundings does. -/
theorem inspect {look : Builder Custom → Host → α × Host}
    (looks : ∀ builder host, builder.surroundings = around → gives (look builder host).1) :
    (Action.inspect look).Meets fails around gives :=
  fun _ placed => ⟨.done (looks _ _ placed), placed⟩

theorem note (event : Event) :
    (Action.note event : Action Custom Host Unit).Meets fails around fun _ => True :=
  fun _ placed => ⟨.done trivial, placed⟩

/-- The surroundings of the body have the frame of the scope in them. -/
theorem within {frame : Frame Custom} {body : Action Custom Host α}
    (inside : body.Meets fails (around.enter frame) gives) :
    (Action.within frame body).Meets fails around gives := by
  rintro machine rfl
  obtain ⟨within, restored⟩ := inside (machine.enter frame) rfl
  obtain ⟨config, frames⟩ := Surroundings.mk.inj restored
  have bottom : frame :: machine.builder.frames <:+ (body (machine.enter frame)).2.builder.frames := by
    rw [frames]
    exact List.suffix_rfl
  exact ⟨within, Builder.surroundings_eq config (Builder.leave_frames bottom)⟩

/-- Declaring a local neither fails nor changes the surroundings. -/
theorem declareLocal (owner : NodeId) (type : ValueType) (initializer : String) :
    (Action.declareLocal owner type initializer : Action Custom Host String).Meets fails around
      fun _ => True := by
  rintro machine rfl
  have config := (Builder.settings_lasting.declareLocal machine.builder owner type initializer).1
  have frames := (Action.restores_declareLocal owner type initializer machine).1
  exact ⟨.done trivial, Builder.surroundings_eq config frames⟩

/-- Registering a texture fails at most by a clash, and leaves the surroundings alone. -/
theorem registerTexture (clashes : ∀ clash, fails (.dimensionClash clash)) (name : String)
    (dimension : Dimension) :
    (Action.registerTexture name dimension : Action Custom Host Nat).Meets fails around
      fun _ => True := by
  rintro machine rfl
  have config := (Action.leads_registerTexture Builder.settings_lasting name dimension machine).1
  have frames := (Action.restores_registerTexture name dimension machine).1
  refine ⟨?_, Builder.surroundings_eq config frames⟩
  unfold Action.registerTexture
  cases machine.builder.registerTexture name dimension with
  | ok registered => exact .done trivial
  | error clash => exact .failed (clashes clash)

/-- A result has the type to which it is converted. -/
theorem finish (refuses : ∀ node output cause, fails (.unusable node output cause)) (name : NodeName)
    (output : ValueType) (expression : TypedTerm) :
    (Action.finish name output expression : Action Custom Host TypedTerm).Meets fails around
      fun result => result.type = output := by
  unfold Action.finish
  cases converted : expression.coerce output with
  | ok result => exact .done (TypedTerm.coerce_converts converted).type
  | error cause => exact .fail (refuses name output cause)

end Action.Meets

/-! ### Programs -/

namespace Program

/-- The program only asks for what the contract admits, and only fails for the reasons in it. Answers
have the types that are asked for. -/
def Meets {α : Type} (contract : Contract Custom) :
    Program Custom Host α → Surroundings Custom → (α → Prop) → Prop
  | done value, _, gives => gives value
  | fail error, _, _ => contract.fails error
  | inspect look next, around, gives =>
    ∀ builder host, builder.surroundings = around →
      (next (look builder host).1).Meets contract around gives
  | note _ next, around, gives => next.Meets contract around gives
  | within frame body next, around, gives =>
    body.Meets contract (around.enter frame) fun answer => (next answer).Meets contract around gives
  | declareLocal _ _ _ next, around, gives => ∀ name, (next name).Meets contract around gives
  | registerTexture _ _ next, around, gives =>
    (∀ clash, contract.fails (.dimensionClash clash)) ∧
      ∀ index, (next index).Meets contract around gives
  | generate node output next, around, gives =>
    contract.asks around node output ∧
      ∀ answer : TypedTerm, answer.type = output → (next answer).Meets contract around gives
  | panic .., _, _ | push .., _, _ | pop .., _, _ | build .., _, _ | attempt .., _, _ => False

variable {contract : Contract Custom} {around : Surroundings Custom} {gives : α → Prop}
  {others : β → Prop}

/-- A program that gives admissible answers gives whatever they are admissible for. -/
theorem Meets.mono {α : Type} {program : Program Custom Host α} {around : Surroundings Custom}
    {gives others : α → Prop} (meets : program.Meets contract around gives)
    (weaker : ∀ answer, gives answer → others answer) : program.Meets contract around others := by
  induction program generalizing around with
  | done value => exact weaker value meets
  | fail error => exact meets
  | inspect look next ih =>
      exact fun builder host placed => ih _ (meets builder host placed) weaker
  | note event next ih => exact ih meets weaker
  | within frame body next inner ih => exact inner meets fun answer given => ih answer given weaker
  | declareLocal owner type initializer next ih => exact fun name => ih name (meets name) weaker
  | registerTexture name dimension next ih =>
      exact ⟨meets.1, fun index => ih index (meets.2 index) weaker⟩
  | generate node output next ih =>
      exact ⟨meets.1, fun answer typed => ih answer (meets.2 answer typed) weaker⟩
  | panic | push | pop | build | attempt => exact meets.elim

/-- A program meets a contract when both of its parts do, one after the other. -/
theorem Meets.bind {program : Program Custom Host α} {rest : α → Program Custom Host β}
    (first : program.Meets contract around gives)
    (follows : ∀ answer, gives answer → (rest answer).Meets contract around others) :
    (program.bind rest).Meets contract around others := by
  induction program generalizing around with
  | done value => exact follows value first
  | fail error => exact first
  | inspect look next ih =>
      exact fun builder host placed => ih _ (first builder host placed) follows
  | note event next ih => exact ih first follows
  | within frame body next inner ih =>
      have inside : body.Meets contract (around.enter frame) _ := first
      exact inside.mono fun answer given => ih answer given follows
  | declareLocal owner type initializer next ih => exact fun name => ih name (first name) follows
  | registerTexture name dimension next ih =>
      exact ⟨first.1, fun index => ih index (first.2 index) follows⟩
  | generate node output next ih =>
      exact ⟨first.1, fun answer typed => ih answer (first.2 answer typed) follows⟩
  | panic | push | pop | build | attempt => exact first.elim

/-- By induction on the program; the nodes that it asks for meet the contract by assumption. -/
theorem Meets.run {generateNode : Node Custom → ValueType → Action Custom Host TypedTerm}
    (generates : ∀ around node output, contract.asks around node output →
      (generateNode node output).Meets contract.fails around fun answer => answer.type = output)
    {program : Program Custom Host α} (meets : program.Meets contract around gives) :
    (program.run generateNode).Meets contract.fails around gives := by
  induction program generalizing around with
  | done value => exact .done meets
  | fail error => exact .fail meets
  | inspect look next ih =>
      have looks : (Action.inspect look : Action Custom Host _).Meets contract.fails around
          fun answer => (next answer).Meets contract around gives := .inspect meets
      exact looks.bind fun answer given => ih answer given
  | note event next ih => exact (Action.Meets.note event).bind fun _ _ => ih meets
  | within frame body next inner ih =>
      exact (inner meets).within.bind fun answer given => ih answer given
  | declareLocal owner type initializer next ih =>
      exact (Action.Meets.declareLocal owner type initializer).bind fun name _ => ih name (meets name)
  | registerTexture name dimension next ih =>
      exact (Action.Meets.registerTexture meets.1 name dimension).bind fun index _ =>
        ih index (meets.2 index)
  | generate node output next ih =>
      exact (generates around node output meets.1).bind fun answer typed =>
        ih answer (meets.2 answer typed)
  | panic | push | pop | build | attempt => exact meets.elim

/-! ### What built-in nodes look at -/

/-- The config that a program sees is the one around it. -/
theorem config_meets : (config : Program Custom Host Config).Meets contract around
    fun answer => answer = around.config := by
  rintro builder _ rfl
  rfl

/-- A key is looked up in the frames around the program. -/
theorem find_meets (key : String) : (find? key : Program Custom Host _).Meets contract around
    fun answer => answer = around.frames.find? key := by
  rintro builder _ rfl
  rfl

/-- A node that may be asked for is answered by a term of the type asked for. -/
theorem generated_meets {node : Node Custom} {output : ValueType}
    (asked : contract.asks around node output) :
    (generated node output : Program Custom Host TypedTerm).Meets contract around
      fun answer => answer.type = output :=
  ⟨asked, fun _ typed => typed⟩

end Program

end ShadeTree
