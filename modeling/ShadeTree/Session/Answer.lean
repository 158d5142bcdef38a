import ShadeTree.Module
import ShadeTree.Session.Script

/-!
What a session answers to its steps.
-/

namespace ShadeTree.Session

/-- What is known of a node besides its name and type. -/
inductive Detail where
  | none
  | snippet (text : String)
  | float (text : String) (isConst : Bool)
  | space (space : NormalSpace)
  | texture (name : String)
  | key (name : String)
  | operation (operation : Operation)
  | context (overrides : Frame Probe) (child : Node Probe) (replaced : List (Option (Value Probe)))
  | physical (scope : PhysicalScope) (id : NodeId) (overrides : Frame Probe) (child : Node Probe)

/-- A physical context shows its id, its scope and its child. -/
def physicalText (scope : PhysicalScope) (id : NodeId) (child : Node Probe) : String :=
  "ContextNode \x7b id: NodeId(" ++ toString id ++ "), policy: " ++ scope.title ++ ", child: " ++
    child.name.text ++ " \x7d"

mutual

/-- What came of a step. -/
inductive Result where
  | defined (node : Node Probe) (detail : Detail)
  | failed (messages : List String)
  | panicked (message : String)
  | replaced (values : List (Option (Value Probe)))
  | frame (frame : Option (Frame Probe))
  | value (value : Option (Value Probe))
  | expression (expression : TypedTerm)
  | fragment (fragment : Fragment)
  | index (index : Nat)
  | text (text : String)
  | truth (value : Bool)
  | within (replaced : List (Option (Value Probe))) (answers : List Answer)
  | snapshot (frame : Frame Probe)

/-- Besides its result an answer gives the step, the depth of the frames and the text of what
every key is resolved to, and the probes that finished. -/
inductive Answer where
  | mk (step : Step) (result : Result) (depth : Nat) (keys : KeyMap String)
      (probes : List ProbeRun)

/-- A probe that finished, with the answers to its steps. -/
inductive ProbeRun where
  | mk (id : NodeId) (output : ValueType) (answers : List Answer)

end

end ShadeTree.Session
