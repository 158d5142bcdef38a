import ShadeTree.Node

/-!
Stacks of context frames. A look-up takes the innermost frame that has the key; a snapshot goes
through the frames from the outermost one and lets later values replace earlier ones.
-/

namespace ShadeTree

variable {Custom : Type}

/-- The innermost frame comes first. -/
abbrev Frames (Custom : Type) := List (Frame Custom)

namespace Frames

def find? (key : String) : Frames Custom → Option (Value Custom)
  | [] => none
  | frame :: outer => (KeyMap.find? key frame).or (find? key outer)

/-- Frames above the given depth are dropped. -/
def truncate (frames : Frames Custom) (depth : Nat) : Frames Custom :=
  frames.drop (frames.length - depth)

/-- The values of a frame take the place of those that are there already. -/
def overlay (below : Frame Custom) (frame : Frame Custom) : Frame Custom :=
  (KeyMap.keys frame).foldl
    (fun values key =>
      match KeyMap.find? key frame with
      | some value => values.insert key value
      | none => values)
    below

/-- What every key is resolved to. -/
def resolved (frames : Frames Custom) : Frame Custom :=
  frames.foldr (fun frame below => overlay below frame) []

end Frames

/-- Two snapshots are the same if they are equally large and every value of the first one has its
like in the second. -/
def sameResolution (left right : Frame Custom) : Bool :=
  left.length == right.length &&
    left.all fun (key, value) =>
      match KeyMap.find? key right with
      | some other => value.same other
      | none => false

end ShadeTree
