import Mathlib.Data.List.Perm.Subperm
import Mathlib.Data.Option.Basic
import ShadeTree.Proofs.Generation.Supply
import ShadeTree.Proofs.Scope.Overlay

/-!
Snapshots of what keys are resolved to.

A snapshot is filled from the outermost frame on, and finds what a look-up finds that starts at the
innermost one. Since no key stands twice in a snapshot, two of equal size have the same keys as soon as
all keys of the one are keys of the other.
-/

namespace ShadeTree

variable {Custom α : Type}

namespace KeyMap

variable {map : KeyMap α} {key : String} {value : α}

/-- An insertion adds its own key and no other. -/
theorem mem_keys_insert {other : String} :
    other ∈ (map.insert key value).keys ↔ other = key ∨ other ∈ map.keys := by
  induction map with
  | nil => simp [insert, keys]
  | cons entry rest ih =>
      obtain ⟨first, old⟩ := entry
      rw [insert]
      split
      · rename_i replaced
        simp [keys, replaced]
      · split
        · simp [keys]
        · simp only [keys, List.map_cons, List.mem_cons] at ih ⊢
          rw [ih, or_left_comm]

/-- Different keys are ordered one way or the other. -/
theorem lt_of_not_lt {first second : String} (different : first ≠ second)
    (unordered : ¬ first < second) : second < first := by
  by_contra other
  exact different (String.le_antisymm (String.not_lt.mp other) (String.not_lt.mp unordered))

/-- An insertion keeps the keys in ascending order. -/
theorem Ascending.insert (ascending : map.Ascending) (key : String) (value : α) :
    (map.insert key value).Ascending := by
  induction map with
  | nil => exact List.pairwise_singleton _ _
  | cons entry rest ih =>
      obtain ⟨first, old⟩ := entry
      obtain ⟨least, behind⟩ := List.pairwise_cons.mp ascending
      rw [KeyMap.insert]
      split
      · rename_i replaced
        subst replaced
        exact ascending
      · rename_i different
        split
        · rename_i before
          refine List.pairwise_cons.mpr ⟨fun other member => ?_, ascending⟩
          rcases List.mem_cons.mp member with rfl | later
          · exact before
          · exact String.lt_trans before (least other later)
        · rename_i after
          refine List.pairwise_cons.mpr ⟨fun other member => ?_, ih behind⟩
          rcases mem_keys_insert.mp member with rfl | later
          · exact lt_of_not_lt different after
          · exact least other later

/-- Ascending keys do not repeat. -/
theorem Ascending.nodup (ascending : map.Ascending) : map.keys.Nodup := by
  refine List.Pairwise.imp (fun {first second} less => ?_) ascending
  rintro rfl
  exact String.lt_irrefl first less

/-- An entry is found by its key when no key repeats. -/
theorem find_of_mem (nodup : map.keys.Nodup) (member : (key, value) ∈ map) :
    find? key map = some value := by
  induction map with
  | nil => cases member
  | cons entry rest ih =>
      obtain ⟨fresh, distinct⟩ := List.nodup_cons.mp nodup
      rw [find?]
      rcases List.mem_cons.mp member with rfl | later
      · exact if_pos rfl
      · have known : key ∈ keys rest := List.mem_map_of_mem later
        rw [if_neg (by rintro rfl; exact fresh known), ih distinct later]

/-- A key finds nothing exactly when it is not listed. -/
theorem find_eq_none_iff : find? key map = none ↔ key ∉ map.keys := by
  refine ⟨fun missed known => ?_, find_none⟩
  induction map with
  | nil => cases known
  | cons entry rest ih =>
      rw [find?] at missed
      split at missed
      · cases missed
      · rename_i different
        rcases List.mem_cons.mp known with rfl | later
        · exact different rfl
        · exact ih missed later

/-- Of two maps without repeated keys one has all keys of the other and no more, if it is no larger. -/
theorem keys_subset_of_length_le {first second : KeyMap α} (nodup : first.keys.Nodup)
    (subset : first.keys ⊆ second.keys) (size : second.length ≤ first.length) :
    second.keys ⊆ first.keys := by
  have sizes : second.keys.length ≤ first.keys.length := by
    simpa [keys] using size
  exact ((List.subperm_of_subset nodup subset).perm_of_length_le sizes).symm.subset

end KeyMap

namespace Frames

/-! ### Snapshots -/

/-- An overlay on ascending keys has ascending keys. -/
theorem overlay_ascending {below : Frame Custom} (ascending : below.Ascending)
    (frame : Frame Custom) : (overlay below frame).Ascending := by
  unfold overlay
  induction KeyMap.keys frame generalizing below with
  | nil => exact ascending
  | cons key rest ih =>
      rw [List.foldl_cons]
      split
      · exact ih (ascending.insert key _)
      · exact ih ascending

/-- The keys of a snapshot ascend. -/
theorem resolved_ascending (frames : Frames Custom) : frames.resolved.Ascending := by
  induction frames with
  | nil => exact List.Pairwise.nil
  | cons frame outer ih => exact overlay_ascending ih frame

theorem resolved_nodup (frames : Frames Custom) : (KeyMap.keys frames.resolved).Nodup :=
  frames.resolved_ascending.nodup

/-- A snapshot holds what a look-up finds. -/
theorem find_resolved (frames : Frames Custom) (key : String) :
    KeyMap.find? key frames.resolved = frames.find? key := by
  induction frames with
  | nil => rfl
  | cons frame outer ih =>
      change KeyMap.find? key (overlay (resolved outer) frame) = _
      rw [find_overlay, ih, find?]

end Frames

/-! ### The comparison of snapshots -/

/-- Both values are missing, or both are there and the same. -/
def Value.Alike (first second : Option (Value Custom)) : Prop :=
  Option.Rel (fun value other => value.same other) first second

namespace Value

theorem same_refl (value : Value Custom) : value.same value := by
  cases value with
  | node tree => exact beq_self_eq_true _
  | literal snippet => exact beq_self_eq_true _

theorem same_symm {first second : Value Custom} (same : first.same second) : second.same first := by
  cases first with
  | node | literal =>
      cases second with
      | node | literal => simp_all [Value.same]

theorem same_trans {first second third : Value Custom} (same : first.same second)
    (also : second.same third) : first.same third := by
  cases first with
  | node | literal =>
      cases second with
      | node | literal =>
          cases third with
          | node | literal => simp_all [Value.same]

/-- Being alike is an equivalence of looked up values. -/
theorem alike_equivalence : Equivalence (@Alike Custom) where
  refl value := by
    cases value with
    | none => exact .none
    | some value => exact .some value.same_refl
  symm alike := by
    cases alike with
    | none => exact .none
    | some same => exact .some (same_symm same)
  trans alike also := by
    cases alike with
    | none => exact also
    | some same =>
        cases also with
        | some other => exact .some (same_trans same other)

/-- What is like a value is a value that is the same. -/
theorem alike_some_iff {value : Value Custom} {other : Option (Value Custom)} :
    Alike (some value) other ↔ ∃ found, other = some found ∧ value.same found := by
  constructor
  · rintro ⟨same⟩
    exact ⟨_, rfl, same⟩
  · rintro ⟨found, rfl, same⟩
    exact .some same

end Value

section Comparison

variable {left right : Frame Custom}

/-- Two snapshots are the same when they are equally long and every entry of one is alike in the
other. -/
theorem sameResolution_iff :
    sameResolution left right ↔ left.length = right.length ∧
      ∀ key value, (key, value) ∈ left → Value.Alike (some value) (KeyMap.find? key right) := by
  rw [sameResolution, Bool.and_eq_true, beq_iff_eq, List.all_eq_true, Prod.forall]
  refine and_congr_right fun _ =>
    forall_congr' fun key => forall_congr' fun value => imp_congr_right fun _ => ?_
  dsimp only
  rw [Value.alike_some_iff]
  cases KeyMap.find? key right with
  | none => simp
  | some other => simp

/-- A snapshot has every key at which a like one finds a value. -/
theorem keys_subset_of_alike
    (alike : ∀ key value, KeyMap.find? key left = some value →
      Value.Alike (some value) (KeyMap.find? key right)) :
    KeyMap.keys left ⊆ KeyMap.keys right := by
  intro key known
  by_contra missing
  cases found : KeyMap.find? key left with
  | none => exact KeyMap.find_eq_none_iff.mp found known
  | some value =>
      have other := alike key value found
      rw [KeyMap.find_none missing] at other
      cases other

/-- Equal sizes make up for looking in one direction only. -/
theorem sameResolution_iff_alike (nodup : (KeyMap.keys left).Nodup)
    (distinct : (KeyMap.keys right).Nodup) :
    sameResolution left right ↔
      ∀ key, Value.Alike (KeyMap.find? key left) (KeyMap.find? key right) := by
  rw [sameResolution_iff]
  constructor
  · rintro ⟨size, likes⟩ key
    have subset := keys_subset_of_alike fun key value found =>
      likes key value (KeyMap.mem_of_find found)
    have back := KeyMap.keys_subset_of_length_le nodup subset (Nat.le_of_eq size.symm)
    cases found : KeyMap.find? key left with
    | some value => exact likes key value (KeyMap.mem_of_find found)
    | none =>
        have missing : key ∉ KeyMap.keys right :=
          fun known => KeyMap.find_eq_none_iff.mp found (back known)
        rw [KeyMap.find_none missing]
        exact .none
  · intro alike
    have subset := keys_subset_of_alike fun key value found => found ▸ alike key
    have back := keys_subset_of_alike fun key value found =>
      found ▸ Value.alike_equivalence.symm (alike key)
    have size := Nat.le_antisymm (nodup.length_le_of_subset subset) (distinct.length_le_of_subset back)
    rw [KeyMap.keys, KeyMap.keys, List.length_map, List.length_map] at size
    refine ⟨size, fun key value member => ?_⟩
    rw [← KeyMap.find_of_mem nodup member]
    exact alike key

end Comparison

/-- Snapshots are the same exactly if look-ups are alike for all keys, since a snapshot holds what a
look-up finds. So to have the same snapshots is an equivalence. -/
theorem snapshots_decide_lookups :
    (∀ (frames : Frames Custom) (key : String),
      KeyMap.find? key frames.resolved = frames.find? key) ∧
    (∀ first second : Frames Custom, sameResolution first.resolved second.resolved ↔
      ∀ key, Value.Alike (first.find? key) (second.find? key)) ∧
    Equivalence fun first second : Frames Custom =>
      sameResolution first.resolved second.resolved = true := by
  have decides (first second : Frames Custom) :
      sameResolution first.resolved second.resolved ↔
        ∀ key, Value.Alike (first.find? key) (second.find? key) := by
    rw [sameResolution_iff_alike first.resolved_nodup second.resolved_nodup]
    simp only [Frames.find_resolved]
  refine ⟨Frames.find_resolved, decides, ?_⟩
  simp only [decides]
  exact
    { refl frames key := Value.alike_equivalence.refl _
      symm alike key := Value.alike_equivalence.symm (alike key)
      trans alike also key := Value.alike_equivalence.trans (alike key) (also key) }

end ShadeTree
