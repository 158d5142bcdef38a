import ShadeTree.Description.Reader
import ShadeTree.Generation
import ShadeTree.Session.Answer

/-!
Running sessions.

A session is the host of its builder: it keeps the named nodes and snapshots, counts the ids, and
collects the probes that finish during a step.
-/

namespace ShadeTree

open Number

/-- What a session keeps beside its builder. -/
structure Session where
  nextId : NodeId
  nodes : KeyMap (Node Session.Probe)
  snapshots : KeyMap (Frame Session.Probe)
  /-- The probes finished during the step at hand, the last one first. -/
  finished : List Session.ProbeRun

namespace Session

def empty : Session := ⟨0, [], [], []⟩

/-- Steps are programs, so a probe may do what the session does. -/
abbrev Script := Program Probe Session

namespace Script

def inspect {α : Type} (look : Builder Probe → Session → α × Session) : Script α :=
  Program.inspect look .done

def update (change : Session → Session) : Script Unit :=
  inspect fun _ session => ((), change session)

def node (name : String) : Script (Node Probe) := do
  match ← inspect fun _ session => (session.nodes.find? name, session) with
  | some node => return node
  | none => .panic ("unknown node " ++ name)

def nodes : List String → Script (List (Node Probe))
  | [] => return []
  | name :: rest => return (← node name) :: (← nodes rest)

def value : ValueRef → Script (Value Probe)
  | .node name => return .node (← node name)
  | .literal snippet => return .literal snippet

/-- The frame, and for each entry the value that it replaced. -/
def frame (values : FrameRef) : Script (Frame Probe × List (Option (Value Probe))) :=
  values.foldlM
    (fun (frame, replaced) (key, reference) => do
      let value ← value reference
      return (frame.insert key value, replaced ++ [frame.find? key]))
    ([], [])

def snapshot (name : String) : Script (Frame Probe) :=
  inspect fun _ session => ((session.snapshots.find? name).getD [], session)

/-- Ids that a construction took stay taken. -/
def construct {α : Type} (construction : Construction α) :
    Script (Except ConstructionError α) :=
  inspect fun _ session =>
    let (result, nextId) := construction.run session.nextId
    (result, { session with nextId })

/-- What became of a recipe: a node, or the messages of what went wrong. -/
abbrev Made := Except (List String) (Node Probe × Detail)

def make (construction : Construction (Node Probe)) (detail : Node Probe → Detail) :
    Script Made := do
  return (← construct construction).mapError ConstructionError.messages |>.map fun node =>
    (node, detail node)

def makeSpelled {α : Type} (spelled : Except ConstructionError α)
    (construction : α → Construction (Node Probe)) (detail : α → Node Probe → Detail) :
    Script Made :=
  match spelled with
  | .ok meaning => make (construction meaning) (detail meaning)
  | .error cause => return .error cause.messages

end Script

open Construction

def Recipe.script : Recipe → Script Script.Made
  | .document source =>
    match NodeDescription.ofText source with
    | .ok description => Script.make description.build fun _ => .none
    | .error cause => return .error [cause.message]
  | .expression snippet type =>
    Script.make (do return .expression (← fresh) snippet type) fun _ => .snippet snippet
  | .float value isConst =>
    Script.make (do return .float (← fresh) value isConst)
      fun _ => .float (value.text .literal) isConst
  | .normal spelling =>
    Script.makeSpelled (NormalSpace.parse spelling)
      (fun space => do return .normal (← fresh) space) fun space _ => .space space
  | .sample texture =>
    Script.make (do return .sample (← fresh) texture) fun _ => .texture texture
  | .reader key fallback => do
    let fallback ← Script.node fallback
    Script.make (do return .reader (← fresh) key fallback) fun _ => .key key
  | .spelled spelling inputs => do
    let inputs ← Script.nodes inputs
    Script.makeSpelled (Operation.parse spelling) (fun operation => operation.apply inputs)
      fun operation _ => .operation operation
  | .operation chosen inputs => do
    let inputs ← Script.nodes inputs
    Script.make (chosen.apply inputs) fun _ => .operation chosen
  | .context child values type => do
    let child ← Script.node child
    let (overrides, replaced) ← Script.frame values
    Script.make (do return .context (← fresh) type overrides child)
      fun _ => .context overrides child replaced
  | .physical name child => do
    let child ← Script.node child
    Script.makeSpelled (PhysicalScope.parse name) (fun scope => scope.wrap child)
      fun scope node => .physical scope node.id node.overrides child
  | .probe type steps ending =>
    Script.make (do return .custom (← fresh) "Probe" type ⟨steps, ending⟩) fun _ => .none

namespace Script

/-- Failure and panic are results of a step. -/
def guarded {α : Type} (script : Script α) (result : α → Result) : Script Result :=
  .attempt script fun
    | .ok value => .done (result value)
    | .error (.failed error) => .done (.failed error.messages)
    | .error (.panicked message) => .done (.panicked message)

/-- The probes that finish during the step belong to its answer, and none of them to the step
around it. -/
def answering (step : Step) (script : Script Result) : Script Answer := do
  let outer ← inspect fun _ session => (session.finished, { session with finished := [] })
  let result ← script
  inspect fun builder session =>
    let keys := KeyMap.mapValues Value.text builder.frames.resolved
    (.mk step result builder.depth keys session.finished.reverse,
      { session with finished := outer })

def define (name : String) (recipe : Recipe) : Script Result := do
  match ← recipe.script with
  | .error messages => return .failed messages
  | .ok (node, detail) =>
    update fun session => { session with nodes := session.nodes.insert name node }
    return .defined node detail

def coerced (snippet : Snippet) (target : ValueType) : Script Result :=
  match snippet.typed.coerce target with
  | .ok expression => return .expression expression
  | .error cause => return .failed [cause.message]

def normal (spelling : String) : Script Result :=
  match NormalSpace.parse spelling with
  | .ok space => do return .text ((← Program.config).normal space).text
  | .error cause => return .failed cause.messages

end Script

mutual

/-- A panic ends the steps around it up to the next guarded one. -/
def Step.script : Step → Script Answer
  | .panic message => .panic message
  | .define name recipe => Script.answering (.define name recipe) (Script.define name recipe)
  | .push values => Script.answering (.push values) do
    let (frame, replaced) ← Script.frame values
    Program.push frame (.done (.replaced replaced))
  | .pop => Script.answering .pop (Program.pop fun frame => .done (.frame frame))
  | .get key => Script.answering (.get key) do return .value (← Program.find? key)
  | .generate name output => Script.answering (.generate name output) do
    let node ← Script.node name
    Script.guarded (Program.generated node output) .expression
  | .generateValue reference output => Script.answering (.generateValue reference output) do
    let value ← Script.value reference
    Script.guarded (value.program output) .expression
  | .build name output => Script.answering (.build name output) do
    let node ← Script.node name
    Script.guarded (Program.build node output .done) .fragment
  | .coerce snippet target =>
    Script.answering (.coerce snippet target) (Script.coerced snippet target)
  | .registerTexture texture dimension => Script.answering (.registerTexture texture dimension)
    (Script.guarded (Program.registerTexture texture dimension .done) .index)
  | .declareLocal name type initializer =>
    Script.answering (.declareLocal name type initializer) do
      let node ← Script.node name
      Program.declareLocal node.id type initializer fun name => .done (.text name)
  | .normal spelling => Script.answering (.normal spelling) (Script.normal spelling)
  | .within values steps => Script.answering (.within values steps) do
    let (frame, replaced) ← Script.frame values
    Script.guarded (.within frame (Step.scripts steps) .done) (.within replaced)
  | .snapshot name => Script.answering (.snapshot name) do
    let frame ← Script.inspect fun builder session =>
      let frame := builder.frames.resolved
      (frame, { session with snapshots := session.snapshots.insert name frame })
    return .snapshot frame
  | .sameResolution left right => Script.answering (.sameResolution left right) do
    return .truth (ShadeTree.sameResolution (← Script.snapshot left) (← Script.snapshot right))
  | .same left right => Script.answering (.same left right) do
    return .truth ((← Script.value left).same (← Script.value right))

def Step.scripts : List Step → Script (List Answer)
  | [] => return []
  | step :: rest => do
    let answer ← Step.script step
    return answer :: (← Step.scripts rest)

end

/-- A probe is recorded when its steps are through, also if it then fails. -/
def Probe.script (probe : Probe) (id : NodeId) (output : ValueType) : Script TypedTerm := do
  let answers ← Step.scripts probe.steps
  Script.update fun session =>
    { session with finished := .mk id output answers :: session.finished }
  match probe.ending with
  | .returns snippet => return snippet.typed
  | .fails message => .fail (.custom message)

/-- How deep nodes of a session may be generated within each other. -/
def fuel : Nat := 1000000

/-- The answers to the steps, and the events in the order in which they happened. -/
def run (builder : Builder Probe) (steps : List Step) : Outcome (List Answer) × List Event :=
  let action := (Step.scripts steps).run (ShadeTree.generate Probe.script fuel)
  let (outcome, machine) := action ⟨builder, empty, []⟩
  (outcome, machine.log.reverse)

end Session

end ShadeTree
