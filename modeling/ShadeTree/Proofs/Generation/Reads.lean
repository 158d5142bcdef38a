import ShadeTree.Generation

/-!
The keys that a tree can read, and the values that it installs.
-/

namespace ShadeTree

variable {Custom : Type}

mutual

/-- The keys of the readers in a tree, those in overrides included. A sample reads where and how
sharply to sample. -/
def Node.reads : Node Custom → List String
  | .expression .. | .float .. | .normal .. | .custom .. => []
  | .context _ _ overrides child => Value.readsAll overrides ++ child.reads
  | .reader _ key fallback => key :: fallback.reads
  | .sample .. => [uvKey, roughnessKey]
  | .binary _ _ left right => left.reads ++ right.reads
  | .mix _ left right factor => left.reads ++ (right.reads ++ factor.reads)

def Value.reads : Value Custom → List String
  | .node tree => tree.reads
  | .literal _ => []

def Value.readsAll : List (String × Value Custom) → List String
  | [] => []
  | (_, value) :: rest => value.reads ++ Value.readsAll rest

end

mutual

/-- The overrides of the contexts in a tree, those of contexts in overrides included. -/
def Node.installs : Node Custom → List (String × Value Custom)
  | .expression .. | .float .. | .normal .. | .sample .. | .custom .. => []
  | .context _ _ overrides child => Value.installsAll overrides ++ child.installs
  | .reader _ _ fallback => fallback.installs
  | .binary _ _ left right => left.installs ++ right.installs
  | .mix _ left right factor => left.installs ++ (right.installs ++ factor.installs)

def Value.installs : Value Custom → List (String × Value Custom)
  | .node tree => tree.installs
  | .literal _ => []

def Value.installsAll : List (String × Value Custom) → List (String × Value Custom)
  | [] => []
  | (key, value) :: rest => (key, value) :: (value.installs ++ Value.installsAll rest)

end

/-- An entry is installed with all that its value installs. -/
theorem Value.installsAll_of_mem {entries : List (String × Value Custom)}
    {entry : String × Value Custom} (member : entry ∈ entries) :
    entry :: entry.2.installs ⊆ Value.installsAll entries := by
  induction entries with
  | nil => cases member
  | cons first rest ih =>
      rw [Value.installsAll]
      rcases List.mem_cons.mp member with equal | later
      · rw [← equal]
        exact List.cons_subset_cons _ (List.subset_append_left _ _)
      · exact List.Subset.trans (ih later)
          (List.subset_cons_of_subset _ (List.subset_append_right _ _))

mutual

/-- What a tree installs is no larger than the tree. -/
theorem Node.size_of_installs {entry : String × Value Custom} :
    {node : Node Custom} → entry ∈ node.installs → entry.2.size ≤ node.size
  | .expression .., member | .float .., member | .normal .., member | .sample .., member
  | .custom .., member => by cases member
  | .context _ _ overrides child, member => by
      rw [Node.size]
      rcases List.mem_append.mp member with installed | inside
      · have small := Value.size_of_installsAll installed
        omega
      · have small := Node.size_of_installs inside
        omega
  | .reader _ _ fallback, member => by
      have small : entry.2.size ≤ fallback.size := Node.size_of_installs member
      exact Nat.le_succ_of_le small
  | .binary _ _ left right, member => by
      rw [Node.size]
      rcases List.mem_append.mp member with inside | inside
      all_goals
        have small := Node.size_of_installs inside
        omega
  | .mix _ left right factor, member => by
      rw [Node.size]
      rcases List.mem_append.mp member with inside | later
      · have small := Node.size_of_installs inside
        omega
      · rcases List.mem_append.mp later with inside | inside
        all_goals
          have small := Node.size_of_installs inside
          omega

/-- What a value installs is not larger than the value. -/
theorem Value.size_of_installs {entry : String × Value Custom} :
    {value : Value Custom} → entry ∈ value.installs → entry.2.size ≤ value.size
  | .node _, member => Node.size_of_installs member
  | .literal _, member => by cases member

/-- What entries install is not larger than the entries. -/
theorem Value.size_of_installsAll {entry : String × Value Custom} :
    {entries : List (String × Value Custom)} → entry ∈ Value.installsAll entries →
      entry.2.size ≤ Value.sizeAll entries
  | [], member => by cases member
  | (_, value) :: rest, member => by
      rw [Value.sizeAll]
      rcases List.mem_cons.mp member with rfl | deeper
      · exact Nat.le_add_right _ _
      · rcases List.mem_append.mp deeper with inside | later
        · have small := Value.size_of_installs inside
          omega
        · have small := Value.size_of_installsAll later
          omega

end

mutual

/-- A node installs as many values as it counts. -/
theorem Node.length_installs : (node : Node Custom) → node.installs.length = node.values
  | .expression .. | .float .. | .normal .. | .sample .. | .custom .. => rfl
  | .context _ _ overrides child => by
      rw [Node.installs, Node.values, List.length_append, Value.length_installsAll overrides,
        Node.length_installs child]
  | .reader _ _ fallback => Node.length_installs fallback
  | .binary _ _ left right => by
      rw [Node.installs, Node.values, List.length_append, Node.length_installs left,
        Node.length_installs right]
  | .mix _ left right factor => by
      rw [Node.installs, Node.values, List.length_append, List.length_append,
        Node.length_installs left, Node.length_installs right, Node.length_installs factor,
        Nat.add_assoc]

/-- A value counts itself and what it installs. -/
theorem Value.length_installs : (value : Value Custom) → value.installs.length + 1 = value.count
  | .node tree => congrArg (· + 1) (Node.length_installs tree)
  | .literal _ => rfl

/-- Entries install as many values as they count. -/
theorem Value.length_installsAll : (entries : List (String × Value Custom)) →
    (Value.installsAll entries).length = Value.countAll entries
  | [] => rfl
  | (_, value) :: rest => by
      rw [Value.installsAll, Value.countAll, List.length_cons, List.length_append,
        ← Value.length_installs value, Value.length_installsAll rest, Nat.add_right_comm]

end

end ShadeTree
