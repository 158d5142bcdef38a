import ShadeTree.Frames

/-!
What a generation can come across: the nodes of a tree and the values of its contexts.

The parts of a tree are its nodes and the values that its contexts install, at any depth. Every node
that is asked for while a tree is generated is a part of the tree or of a frame.
-/

namespace ShadeTree

variable {Custom : Type}

mutual

/-- The nodes of a tree and its overrides, those in overrides included. -/
def Node.parts : Node Custom → List (Value Custom)
  | .expression id snippet type => [.node (.expression id snippet type)]
  | .float id value isConst => [.node (.float id value isConst)]
  | .normal id space => [.node (.normal id space)]
  | .context id type overrides child =>
    .node (.context id type overrides child) :: (Value.partsAll overrides ++ child.parts)
  | .reader id key fallback => .node (.reader id key fallback) :: fallback.parts
  | .sample id texture => [.node (.sample id texture)]
  | .binary id operation left right =>
    .node (.binary id operation left right) :: (left.parts ++ right.parts)
  | .mix id left right factor =>
    .node (.mix id left right factor) :: (left.parts ++ (right.parts ++ factor.parts))
  | .custom id label type content => [.node (.custom id label type content)]

def Value.parts : Value Custom → List (Value Custom)
  | .node tree => tree.parts
  | .literal snippet => [.literal snippet]

def Value.partsAll : List (String × Value Custom) → List (Value Custom)
  | [] => []
  | (_, value) :: rest => value.parts ++ Value.partsAll rest

end

theorem Node.mem_parts (node : Node Custom) : .node node ∈ node.parts := by
  cases node <;> simp [Node.parts]

theorem Value.mem_parts (value : Value Custom) : value ∈ value.parts := by
  cases value with
  | node tree => exact tree.mem_parts
  | literal snippet => exact List.mem_singleton_self _

/-- The parts of an entry are parts of the entries. -/
theorem Value.partsAll_of_mem {entries : List (String × Value Custom)} {entry : String × Value Custom}
    (member : entry ∈ entries) : entry.2.parts ⊆ Value.partsAll entries := by
  induction entries with
  | nil => cases member
  | cons first rest ih =>
      rw [Value.partsAll]
      rcases List.mem_cons.mp member with equal | later
      · rw [← equal]
        exact List.subset_append_left _ _
      · exact List.Subset.trans (ih later) (List.subset_append_right _ _)

mutual

/-- The parts of a part are parts of the whole, by induction on the tree. -/
theorem Node.parts_subset {part : Value Custom} : {node : Node Custom} → part ∈ node.parts →
    part.parts ⊆ node.parts
  | .expression .., member | .float .., member | .normal .., member | .sample .., member
  | .custom .., member => by
      rw [List.mem_singleton.mp member]
      exact List.Subset.refl _
  | .context id type overrides child, member => by
      rw [Node.parts, List.mem_cons, List.mem_append] at member
      obtain rfl | inside | inside := member
      · exact List.Subset.refl _
      · have subset := Value.partsAll_subset inside
        simp only [Node.parts]
        exact fun _ found => .tail _ (List.mem_append_left _ (subset found))
      · have subset := Node.parts_subset inside
        simp only [Node.parts]
        exact fun _ found => .tail _ (List.mem_append_right _ (subset found))
  | .reader id key fallback, member => by
      rw [Node.parts, List.mem_cons] at member
      obtain rfl | inside := member
      · exact List.Subset.refl _
      · have subset := Node.parts_subset inside
        exact fun _ found => .tail _ (subset found)
  | .binary id operation left right, member => by
      rw [Node.parts, List.mem_cons, List.mem_append] at member
      obtain rfl | inside | inside := member
      · exact List.Subset.refl _
      · have subset := Node.parts_subset inside
        exact fun _ found => .tail _ (List.mem_append_left _ (subset found))
      · have subset := Node.parts_subset inside
        exact fun _ found => .tail _ (List.mem_append_right _ (subset found))
  | .mix id left right factor, member => by
      rw [Node.parts, List.mem_cons, List.mem_append, List.mem_append] at member
      obtain rfl | inside | inside | inside := member
      · exact List.Subset.refl _
      · have subset := Node.parts_subset inside
        exact fun _ found => .tail _ (List.mem_append_left _ (subset found))
      · have subset := Node.parts_subset inside
        exact fun _ found =>
          .tail _ (List.mem_append_right _ (List.mem_append_left _ (subset found)))
      · have subset := Node.parts_subset inside
        exact fun _ found =>
          .tail _ (List.mem_append_right _ (List.mem_append_right _ (subset found)))

/-- The parts of a part of a value are parts of the value. -/
theorem Value.parts_subset {part : Value Custom} : {value : Value Custom} → part ∈ value.parts →
    part.parts ⊆ value.parts
  | .node _, member => Node.parts_subset member
  | .literal _, member => by
      rw [List.mem_singleton.mp member]
      exact List.Subset.refl _

/-- The parts of a part of the entries are parts of the entries. -/
theorem Value.partsAll_subset {part : Value Custom} : {entries : List (String × Value Custom)} →
    part ∈ Value.partsAll entries → part.parts ⊆ Value.partsAll entries
  | [], member => by cases member
  | (_, value) :: rest, member => by
      rw [Value.partsAll, List.mem_append] at member
      obtain inside | inside := member
      · have subset := Value.parts_subset inside
        exact fun _ found => List.mem_append_left _ (subset found)
      · have subset := Value.partsAll_subset inside
        exact fun _ found => List.mem_append_right _ (subset found)

end

/-- The text that a value brings with it as it is. -/
def Value.snippet? : Value Custom → Option String
  | .node (.expression _ snippet _) => some snippet
  | .literal snippet => some snippet.text
  | .node _ => none

/-- The parts of a tree and of the frames that it is generated under. -/
def Frames.partsWith (frames : Frames Custom) (root : Node Custom) : List (Value Custom) :=
  root.parts ++ frames.flatMap Value.partsAll

/-- The parts of a part of the tree or the frames are such parts. -/
theorem Frames.partsWith_subset {frames : Frames Custom} {root : Node Custom} {part : Value Custom}
    (member : part ∈ frames.partsWith root) : part.parts ⊆ frames.partsWith root := by
  rw [partsWith, List.mem_append, List.mem_flatMap] at member
  obtain inside | ⟨frame, known, inside⟩ := member
  · exact List.Subset.trans (Node.parts_subset inside) (List.subset_append_left _ _)
  · intro found deeper
    have installed := Value.partsAll_subset inside deeper
    exact List.mem_append_right _ (List.mem_flatMap.mpr ⟨frame, known, installed⟩)

/-- Values with everything that the generation of one of them asks for. -/
structure Supply (Custom : Type) where
  has : Value Custom → Prop
  child {id : NodeId} {type : Option ValueType} {overrides : Frame Custom} {child : Node Custom} :
    has (.node (.context id type overrides child)) → has (.node child)
  override {id : NodeId} {type : Option ValueType} {overrides : Frame Custom} {child : Node Custom} :
    has (.node (.context id type overrides child)) → ∀ entry ∈ overrides, has entry.2
  fallback {id : NodeId} {key : String} {fallback : Node Custom} :
    has (.node (.reader id key fallback)) → has (.node fallback)
  operands {id : NodeId} {operation : BinaryOperation} {left right : Node Custom} :
    has (.node (.binary id operation left right)) → has (.node left) ∧ has (.node right)
  mixed {id : NodeId} {left right factor : Node Custom} :
    has (.node (.mix id left right factor)) →
      has (.node left) ∧ has (.node right) ∧ has (.node factor)

/-- What is found under a key is an entry of the map. -/
theorem KeyMap.mem_of_find {α : Type} {map : KeyMap α} {key : String} {value : α}
    (found : find? key map = some value) : (key, value) ∈ map := by
  induction map with
  | nil => cases found
  | cons entry rest ih =>
      rw [find?] at found
      by_cases equal : entry.1 = key
      · rw [if_pos equal, Option.some.injEq] at found
        rw [← equal, ← found]
        exact List.mem_cons_self ..
      · rw [if_neg equal] at found
        exact List.mem_cons_of_mem _ (ih found)

/-- What is found in the frames lies in one of them. -/
theorem Frames.mem_of_find {frames : Frames Custom} {key : String} {value : Value Custom}
    (found : frames.find? key = some value) : ∃ frame ∈ frames, (key, value) ∈ frame := by
  induction frames with
  | nil => cases found
  | cons frame outer ih =>
      rw [Frames.find?, Option.or_eq_some_iff] at found
      obtain inner | ⟨_, later⟩ := found
      · exact ⟨frame, List.mem_cons_self .., KeyMap.mem_of_find inner⟩
      · obtain ⟨other, member, inside⟩ := ih later
        exact ⟨other, List.mem_cons_of_mem _ member, inside⟩

namespace Supply

/-- Nodes with one id are one node. -/
def Identified (supply : Supply Custom) : Prop :=
  ∀ left right : Node Custom, supply.has (.node left) → supply.has (.node right) →
    left.id = right.id → left = right

/-- Every value of the frames is supplied. -/
def Covers (supply : Supply Custom) (frames : Frames Custom) : Prop :=
  ∀ frame ∈ frames, ∀ entry ∈ frame, supply.has entry.2

/-- What is found in covered frames is supplied. -/
theorem Covers.found {supply : Supply Custom} {frames : Frames Custom} {key : String}
    {value : Value Custom} (covers : supply.Covers frames) (found : frames.find? key = some value) :
    supply.has value := by
  obtain ⟨frame, member, inside⟩ := Frames.mem_of_find found
  exact covers frame member (key, value) inside

/-- A supplied frame on top keeps the frames covered. -/
theorem Covers.cons {supply : Supply Custom} {frames : Frames Custom} {frame : Frame Custom}
    (covers : supply.Covers frames) (supplied : ∀ entry ∈ frame, supply.has entry.2) :
    supply.Covers (frame :: frames) := by
  intro other member
  rcases List.mem_cons.mp member with equal | outer
  · exact equal ▸ supplied
  · exact covers other outer

/-- The parts of a tree and of the frames are a supply. -/
def ofParts (frames : Frames Custom) (root : Node Custom) : Supply Custom where
  has value := value ∈ frames.partsWith root
  child member := by
    refine Frames.partsWith_subset member (.tail _ (List.mem_append_right _ ?_))
    exact Node.mem_parts _
  override member entry installed := by
    refine Frames.partsWith_subset member (.tail _ (List.mem_append_left _ ?_))
    exact Value.partsAll_of_mem installed (Value.mem_parts _)
  fallback member := Frames.partsWith_subset member (.tail _ (Node.mem_parts _))
  operands member := by
    have subset := Frames.partsWith_subset member
    refine ⟨subset (.tail _ (List.mem_append_left _ ?_)),
      subset (.tail _ (List.mem_append_right _ ?_))⟩
    · exact Node.mem_parts _
    · exact Node.mem_parts _
  mixed member := by
    have subset := Frames.partsWith_subset member
    refine ⟨subset (.tail _ (List.mem_append_left _ ?_)),
      subset (.tail _ (List.mem_append_right _ (List.mem_append_left _ ?_))),
      subset (.tail _ (List.mem_append_right _ (List.mem_append_right _ ?_)))⟩
    · exact Node.mem_parts _
    · exact Node.mem_parts _
    · exact Node.mem_parts _

/-- The root is supplied. -/
theorem ofParts_root (frames : Frames Custom) (root : Node Custom) :
    (ofParts frames root).has (.node root) :=
  List.mem_append_left _ root.mem_parts

/-- The frames are covered. -/
theorem ofParts_covers (frames : Frames Custom) (root : Node Custom) :
    (ofParts frames root).Covers frames := by
  intro frame known entry installed
  have part := Value.partsAll_of_mem installed (Value.mem_parts _)
  exact List.mem_append_right _ (List.mem_flatMap.mpr ⟨frame, known, part⟩)

end Supply

end ShadeTree
