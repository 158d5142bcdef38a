import ShadeTree.Proofs.Generation.Reads
import ShadeTree.Proofs.Generation.Supply

/-!
Which nodes a node has generated.

A call is a node under frames. It goes on with a part of its node or with a value from the frames, so
that whatever can be met on the way lies in the frames or in the node from the beginning.
-/

namespace ShadeTree

variable {Custom : Type}

/-! ### Calls -/

def Node.operands : Node Custom → List (Node Custom)
  | .binary _ _ left right => [left, right]
  | .mix _ left right factor => [left, right, factor]
  | _ => []

/-- What is generated: a node under frames. -/
structure Call where
  frames : Frames Empty
  node : Node Empty

/-- The nodes that a node has generated, and under which frames. -/
inductive Calls : Call → Call → Prop
  | child {frames : Frames Empty} {id : NodeId} {type : Option ValueType} {overrides : Frame Empty}
      {child : Node Empty} :
      Calls ⟨frames, .context id type overrides child⟩ ⟨overrides :: frames, child⟩
  | override {frames : Frames Empty} {id : NodeId} {key : String} {fallback tree : Node Empty}
      (found : frames.find? key = some (.node tree)) :
      Calls ⟨frames, .reader id key fallback⟩ ⟨frames, tree⟩
  | fallback {frames : Frames Empty} {id : NodeId} {key : String} {fallback : Node Empty}
      (missing : frames.find? key = none) :
      Calls ⟨frames, .reader id key fallback⟩ ⟨frames, fallback⟩
  | sampled {frames : Frames Empty} {id : NodeId} {texture key : String} {tree : Node Empty}
      (read : key ∈ [uvKey, roughnessKey]) (found : frames.find? key = some (.node tree)) :
      Calls ⟨frames, .sample id texture⟩ ⟨frames, tree⟩
  | operand {frames : Frames Empty} {node operand : Node Empty} (member : operand ∈ node.operands) :
      Calls ⟨frames, node⟩ ⟨frames, operand⟩

/-! ### What a call can meet -/

theorem Node.size_pos (node : Node Custom) : 0 < node.size := by
  cases node <;> exact Nat.succ_pos _

/-- A part of a tree is smaller and reads and installs nothing else. -/
structure Node.Part (part whole : Node Custom) : Prop where
  size : part.size < whole.size
  reads : part.reads ⊆ whole.reads
  installs : part.installs ⊆ whole.installs

namespace Node

/-- The child of a context is a part of it. -/
theorem child_part (id : NodeId) (type : Option ValueType) (overrides : Frame Custom)
    (child : Node Custom) : child.Part (.context id type overrides child) := by
  refine ⟨?_, List.subset_append_right _ _, List.subset_append_right _ _⟩
  rw [size]
  omega

/-- The fallback of a reader is a part of it. -/
theorem fallback_part (id : NodeId) (key : String) (fallback : Node Custom) :
    fallback.Part (.reader id key fallback) :=
  ⟨Nat.lt_succ_self _, List.subset_cons_self _ _, fun _ member => member⟩

/-- An operand is a part of its operation. -/
theorem operand_part {node operand : Node Custom} (member : operand ∈ node.operands) :
    operand.Part node := by
  cases node with
  | binary id operation left right =>
      simp only [operands, List.mem_cons, List.not_mem_nil, or_false] at member
      constructor
      · rw [size]
        rcases member with rfl | rfl <;> omega
      · rw [reads]
        rcases member with rfl | rfl <;> simp
      · rw [installs]
        rcases member with rfl | rfl <;> simp
  | mix id left right factor =>
      simp only [operands, List.mem_cons, List.not_mem_nil, or_false] at member
      constructor
      · rw [size]
        rcases member with rfl | rfl | rfl <;> omega
      · rw [reads]
        rcases member with rfl | rfl | rfl <;> simp
      · rw [installs]
        rcases member with rfl | rfl | rfl <;> simp
  | expression | float | normal | context | reader | sample | custom => cases member

end Node

def Frames.installs (frames : Frames Empty) : List (String × Value Empty) :=
  frames.flatMap Value.installsAll

/-- What is found in the frames is installed by them, and so is whatever it installs itself. -/
theorem Frames.installs_of_find {frames : Frames Empty} {key : String} {value : Value Empty}
    (found : frames.find? key = some value) : (key, value) :: value.installs ⊆ frames.installs := by
  induction frames with
  | nil => cases found
  | cons frame outer ih =>
      rw [Frames.find?, Option.or_eq_some_iff] at found
      rw [Frames.installs, List.flatMap_cons]
      obtain inner | ⟨_, later⟩ := found
      · have inside := Value.installsAll_of_mem (KeyMap.mem_of_find inner)
        exact List.Subset.trans inside (List.subset_append_left _ _)
      · exact List.Subset.trans (ih later) (List.subset_append_right _ _)

/-- What the frames amount to together. -/
def Frames.total (amount : Frame Empty → Nat) : Frames Empty → Nat
  | [] => 0
  | frame :: outer => amount frame + total amount outer

/-- One frame amounts to no more than all of them. -/
theorem Frames.le_total (amount : Frame Empty → Nat) {frames : Frames Empty} {frame : Frame Empty}
    (member : frame ∈ frames) : amount frame ≤ frames.total amount := by
  induction member with
  | head outer => exact Nat.le_add_right _ _
  | tail other _ ih => exact Nat.le_trans ih (Nat.le_add_left _ _)

/-- The total is counted frame by frame. -/
theorem Frames.foldl_eq_total (amount : Frame Empty → Nat) (frames : Frames Empty) (start : Nat) :
    frames.foldl (fun total frame => total + amount frame) start = frames.total amount + start := by
  induction frames generalizing start with
  | nil => exact (Nat.zero_add start).symm
  | cons frame outer ih =>
      rw [List.foldl_cons, ih, total]
      omega

/-- The frames install as many values as they count. -/
theorem Frames.length_installs (frames : Frames Empty) :
    frames.installs.length = frames.total Value.countAll := by
  induction frames with
  | nil => rfl
  | cons frame outer ih =>
      rw [installs, List.flatMap_cons, List.length_append, Value.length_installsAll, total, ← ih]
      rfl

namespace Call

/-- The values that lie in the frames or can come to lie there. -/
def installs (call : Call) : List (String × Value Empty) :=
  call.frames.installs ++ call.node.installs

def size (call : Call) : Nat :=
  call.frames.total Value.sizeAll + call.node.size

def values (call : Call) : Nat :=
  call.frames.total Value.countAll + call.node.values

/-- A call can meet as many values as it counts. -/
theorem length_installs (call : Call) : call.installs.length = call.values := by
  unfold installs values
  rw [List.length_append, Frames.length_installs, Node.length_installs]

/-- No value that a call can meet is larger than the call. -/
theorem size_of_installs {call : Call} {entry : String × Value Empty}
    (member : entry ∈ call.installs) : entry.2.size ≤ call.size := by
  unfold size
  rcases List.mem_append.mp member with lying | coming
  · obtain ⟨frame, known, inside⟩ := List.mem_flatMap.mp lying
    have small := Value.size_of_installsAll inside
    have part := Frames.le_total Value.sizeAll known
    omega
  · have small := Node.size_of_installs coming
    omega

end Call

/-- A call goes on with a part of its node, or with a value that lies in the frames under a key that
its node reads. -/
inductive Calls.Onward (call other : Call) : Prop
  | part (smaller : other.node.Part call.node) (frames : other.frames.installs ⊆ call.installs)
  | found {key : String} (read : key ∈ call.node.reads) (frames : other.frames = call.frames)
      (lies : (key, .node other.node) :: other.node.installs ⊆ call.frames.installs)

/-- Every call goes on with a part of its node or with what its node reads. -/
theorem Calls.onward {call other : Call} (calls : Calls call other) : Onward call other := by
  cases calls with
  | child =>
      refine .part (Node.child_part _ _ _ _) ?_
      rw [Call.installs, Frames.installs, List.flatMap_cons, Node.installs]
      refine List.append_subset.mpr ⟨?_, List.subset_append_left _ _⟩
      exact List.Subset.trans (List.subset_append_left _ _) (List.subset_append_right _ _)
  | override found => exact .found (.head _) rfl (Frames.installs_of_find found)
  | fallback missing => exact .part (Node.fallback_part _ _ _) (List.subset_append_left _ _)
  | sampled read found => exact .found read rfl (Frames.installs_of_find found)
  | operand member => exact .part (Node.operand_part member) (List.subset_append_left _ _)

/-- Nothing else is installed on the way. -/
theorem Calls.installs_subset {call other : Call} (calls : Calls call other) :
    other.installs ⊆ call.installs := by
  cases calls.onward with
  | part smaller frames =>
      have inside := List.Subset.trans smaller.installs (List.subset_append_right call.frames.installs _)
      exact List.append_subset.mpr ⟨frames, inside⟩
  | found read frames lies =>
      have known := List.Subset.trans (List.subset_cons_self _ _) lies
      unfold Call.installs
      rw [frames]
      exact List.Subset.trans (List.append_subset.mpr ⟨fun _ => id, known⟩)
        (List.subset_append_left _ _)

end ShadeTree
