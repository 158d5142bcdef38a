import ShadeTree.Proofs.Likeness.Construction
import Mathlib.Data.List.Nodup

/-!
Constructions that take their ids in different orders.

Two constructions can make the same tree and still number its nodes differently. Of such a pair the
ids that belong together are listed, pair by pair; each side lists what it has taken, in whatever order
it was taken.
-/

namespace ShadeTree

variable {α β γ δ : Type}

/-! ### Ids that are taken -/

/-- Exactly the ids between two counts, in some order. -/
structure Taken (ids : List NodeId) (next after : NodeId) : Prop where
  after : after = next + ids.length
  range : ids.Perm (List.range' next ids.length)

namespace Taken

theorem none (next : NodeId) : Taken [] next next :=
  ⟨rfl, .refl _⟩

theorem one (next : NodeId) : Taken [next] next (next + 1) :=
  ⟨rfl, .refl _⟩

/-- What is taken first and what is taken behind it is taken together. -/
theorem append {ids others : List NodeId} {first middle last : NodeId}
    (before : Taken ids first middle) (behind : Taken others middle last) :
    Taken (ids ++ others) first last := by
  obtain ⟨rfl, range⟩ := before
  obtain ⟨rfl, further⟩ := behind
  constructor
  · rw [List.length_append, Nat.add_assoc]
  · rw [List.length_append, ← List.range'_append_1]
    exact range.append further

/-- The order in which ids are taken does not matter. -/
theorem perm {ids others : List NodeId} {next after : NodeId} (taken : Taken ids next after)
    (perm : ids.Perm others) : Taken others next after := by
  obtain ⟨rfl, range⟩ := taken
  rw [perm.length_eq] at range ⊢
  exact ⟨rfl, perm.symm.trans range⟩

/-- No id is taken twice. -/
theorem nodup {ids : List NodeId} {next after : NodeId} (taken : Taken ids next after) :
    ids.Nodup :=
  taken.range.nodup_iff.mpr List.nodup_range'

end Taken

namespace Likeness

/-! ### Pairs of ids -/

/-- The ids of each pair belong together, and every key matters. -/
structure Covers (like : Likeness) (pairs : List (NodeId × NodeId)) : Prop where
  ids : ∀ pair ∈ pairs, like.ids pair.1 pair.2
  keys : ∀ key, like.keys key

/-- A likeness that covers two lists of pairs covers the first. -/
theorem Covers.left {like : Likeness} {pairs others : List (NodeId × NodeId)}
    (covers : like.Covers (pairs ++ others)) : like.Covers pairs :=
  ⟨fun pair member => covers.ids pair (List.mem_append_left _ member), covers.keys⟩

/-- A likeness that covers two lists of pairs covers the second. -/
theorem Covers.right {like : Likeness} {pairs others : List (NodeId × NodeId)}
    (covers : like.Covers (pairs ++ others)) : like.Covers others :=
  ⟨fun pair member => covers.ids pair (List.mem_append_right _ member), covers.keys⟩

/-- Exactly the listed ids belong together. -/
def ofPairs (pairs : List (NodeId × NodeId)) (lefts : (pairs.map Prod.fst).Nodup)
    (rights : (pairs.map Prod.snd).Nodup) : Likeness where
  ids id other := (id, other) ∈ pairs
  unique {first second other another} known also := by
    constructor
    · intro same
      exact congrArg Prod.snd (List.inj_on_of_nodup_map lefts known also same)
    · intro same
      exact congrArg Prod.fst (List.inj_on_of_nodup_map rights known also same)
  keys _ := True
  texts := True

/-- The likeness of a list of pairs covers that list. -/
theorem ofPairs_covers (pairs : List (NodeId × NodeId)) (lefts : (pairs.map Prod.fst).Nodup)
    (rights : (pairs.map Prod.snd).Nodup) : (ofPairs pairs lefts rights).Covers pairs :=
  ⟨fun _ => id, fun _ => trivial⟩

/-- What two constructions come to that count from the given ids. Either both have a result, and these
are alike wherever the listed ids belong together, or both fail for the same cause. -/
inductive Pairing (answers : Likeness → α → β → Prop) (next other : NodeId) :
    Except ConstructionError α × NodeId → Except ConstructionError β × NodeId → Prop
  | ok {left : α} {right : β} {after later : NodeId} (pairs : List (NodeId × NodeId))
      (lefts : Taken (pairs.map Prod.fst) next after)
      (rights : Taken (pairs.map Prod.snd) other later)
      (same : ∀ like : Likeness, like.Covers pairs → answers like left right) :
      Pairing answers next other (.ok left, after) (.ok right, later)
  | error (cause : ConstructionError) (after later : NodeId) :
      Pairing answers next other (.error cause, after) (.error cause, later)

/-- Pairs that were there before are listed before those that are added. -/
theorem Pairing.extend {answers others : Likeness → α → β → Prop} {next other after later : NodeId}
    {first : Except ConstructionError α × NodeId} {second : Except ConstructionError β × NodeId}
    (last : Pairing answers after later first second) (pairs : List (NodeId × NodeId))
    (lefts : Taken (pairs.map Prod.fst) next after) (rights : Taken (pairs.map Prod.snd) other later)
    (implies : ∀ (like : Likeness) (left : α) (right : β), like.Covers pairs →
      answers like left right → others like left right) :
    Pairing others next other first second := by
  cases last with
  | error cause after later => exact .error cause after later
  | ok more moreLefts moreRights same =>
      refine .ok (pairs ++ more) ?_ ?_ fun like covers => ?_
      · rw [List.map_append]
        exact lefts.append moreLefts
      · rw [List.map_append]
        exact rights.append moreRights
      · exact implies like _ _ covers.left (same like covers.right)

/-- Constructions whose results differ in their ids only. -/
def Matches (answers : Likeness → α → β → Prop) (left : Construction α) (right : Construction β) :
    Prop :=
  ∀ next other, Pairing answers next other (left.run next) (right.run other)

namespace Matches

variable {answers : Likeness → α → β → Prop} {others : Likeness → γ → δ → Prop}

/-- Answers that are related whatever the ids match without taking any. -/
theorem pure {left : α} {right : β} (same : ∀ like : Likeness, like.Covers [] → answers like left right) :
    Matches answers (pure left) (pure right) :=
  fun next other => .ok [] (.none next) (.none other) same

/-- Constructions that fail for one cause match. -/
theorem throw (cause : ConstructionError) : Matches answers (throw cause) (throw cause) :=
  fun next other => .error cause next other

/-- Two fresh ids form a pair. -/
theorem fresh : Matches Likeness.ids Construction.fresh Construction.fresh :=
  fun next other => .ok [(next, other)] (.one next) (.one other) fun _ covers => covers.ids _ (.head _)

/-- What follows may use that the first results are alike. -/
theorem bind {left : Construction α} {right : Construction β} {next : α → Construction γ}
    {follow : β → Construction δ} (first : Matches answers left right)
    (rest : ∀ value result, (∃ like, answers like value result) →
      Matches (fun like final ending => answers like value result → others like final ending)
        (next value) (follow result)) :
    Matches others (left >>= next) (right >>= follow) := by
  intro start other
  have ends := first start other
  rw [Construction.run_bind, Construction.run_bind]
  generalize left.run start = before at ends ⊢
  generalize right.run other = behind at ends ⊢
  cases ends with
  | error cause after later => exact .error cause after later
  | @ok value result after later pairs lefts rights same =>
      have some := same _ (ofPairs_covers pairs lefts.nodup rights.nodup)
      have last := rest value result ⟨_, some⟩ after later
      exact last.extend pairs lefts rights fun like _ _ covers alike => alike (same like covers)

/-- A result that does not depend on ids is the same on both sides. -/
theorem lift {next : α → Construction γ} {follow : α → Construction δ}
    (result : Except ConstructionError α) (rest : ∀ value, Matches others (next value) (follow value)) :
    Matches others (liftM result >>= next) (liftM result >>= follow) := by
  cases result with
  | ok value => exact rest value
  | error cause => exact .throw cause

/-- Changing the error of matching constructions in one way leaves them matching. -/
theorem adapt (change : ConstructionError → ConstructionError) {left : Construction α}
    {right : Construction β} (same : Matches answers left right) :
    Matches answers (ExceptT.adapt change left) (ExceptT.adapt change right) := by
  intro next other
  have ends := same next other
  change Pairing answers next other
    ((left.run next).1.mapError change, (left.run next).2)
    ((right.run other).1.mapError change, (right.run other).2)
  generalize left.run next = before at ends ⊢
  generalize right.run other = behind at ends ⊢
  cases ends with
  | error cause after later => exact .error (change cause) after later
  | ok pairs lefts rights same => exact .ok pairs lefts rights same

/-- A part that cannot fail may come first on one side and last on the other. The pairs are listed in
the order of the left side, which on the right one is another order. -/
theorem early {ε ζ : Type} {alike : Likeness → ε → ζ → Prop} {left : Construction α}
    {right : Construction β} {extra : Construction γ} {moved : Construction δ}
    {next : α → γ → Construction ε} {follow : β → δ → Construction ζ}
    (first : Matches answers left right) (second : Matches others extra moved)
    (sure : ∀ start, ∃ value after, extra.run start = (.ok value, after))
    (rest : ∀ value result addition another,
      Matches (fun like final ending => answers like value result → others like addition another →
        alike like final ending) (next value addition) (follow result another)) :
    Matches alike (left >>= fun value => extra >>= next value)
      (moved >>= fun another => right >>= fun result => follow result another) := by
  intro start other
  rw [Construction.run_bind, Construction.run_bind]
  -- the part runs from the start on one side, and from wherever the other part stops on the other
  have moves : ∀ between, ∃ addition after, extra.run between = (.ok addition, after) ∧
      Pairing others between other (.ok addition, after) (moved.run other) := by
    intro between
    obtain ⟨addition, after, ran⟩ := sure between
    exact ⟨addition, after, ran, ran ▸ second between other⟩
  rcases movedEnds : moved.run other with ⟨ending, middle⟩
  rw [movedEnds] at moves
  cases ending with
  | error cause =>
      obtain ⟨_, _, _, pairing⟩ := moves start
      cases pairing
  | ok another =>
      dsimp only
      rw [Construction.run_bind]
      have ends := first start middle
      generalize left.run start = before at ends ⊢
      generalize right.run middle = behind at ends ⊢
      cases ends with
      | error cause after later => exact .error cause after later
      | @ok value result between later pairs lefts rights same =>
          obtain ⟨addition, after, ran, pairing⟩ := moves between
          dsimp only
          rw [Construction.run_bind, ran]
          have last := rest value result addition another after later
          cases pairing with
          | ok more moreLefts moreRights additions =>
              have bothLefts : Taken ((pairs ++ more).map Prod.fst) start after := by
                rw [List.map_append]
                exact lefts.append moreLefts
              have bothRights : Taken ((pairs ++ more).map Prod.snd) other later := by
                rw [List.map_append]
                exact (moreRights.append rights).perm List.perm_append_comm
              exact last.extend (pairs ++ more) bothLefts bothRights fun like _ _ covers alike =>
                alike (same like covers.left) (additions like covers.right)

end Matches

end Likeness

end ShadeTree
