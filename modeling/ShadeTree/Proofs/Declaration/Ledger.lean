import ShadeTree.Proofs.Generation.Tables
import Mathlib.Data.List.DropRight
import Mathlib.Data.List.Nodup
import Mathlib.Data.Set.Function
import Mathlib.Order.Interval.Set.Defs

/-!
Tables with indices.

A builder searches its tables for an owner or a name. A ledger keeps the same entries together with
an index from keys to places, and goes where the index leads, be it out of the table. The two fit
together throughout, so an index leads each key to the place at which a search finds it.
-/

namespace ShadeTree

/-! ### Tables -/

/-- Entries in the order in which they came, and the places of their keys. -/
structure IndexedTable (κ ε : Type) where
  entries : List ε
  index : List (κ × Nat)

namespace IndexedTable

variable {κ ε : Type} [BEq κ]

def empty : IndexedTable κ ε :=
  ⟨[], []⟩

def place? (table : IndexedTable κ ε) (key : κ) : Option Nat :=
  table.index.lookup key

/-- A new entry stands behind all others. -/
def append (table : IndexedTable κ ε) (key : κ) (entry : ε) : IndexedTable κ ε :=
  ⟨table.entries ++ [entry], (key, table.entries.length) :: table.index⟩

/-- The keys are those of the entries, each at the place of its entry. -/
structure Keyed (keyOf : ε → κ) (table : IndexedTable κ ε) : Prop where
  distinct : (table.entries.map keyOf).Nodup
  places : ∀ key place, table.place? key = some place ↔ (table.entries.map keyOf)[place]? = some key

variable {keyOf : ε → κ} {table : IndexedTable κ ε} {key : κ} {entry : ε} {place : Nat}

theorem keyed_empty : (empty : IndexedTable κ ε).Keyed keyOf where
  distinct := List.nodup_nil
  places key place := by simp [empty, place?]

/-- Exactly the keys of no entry have no place. -/
theorem Keyed.place_eq_none (keyed : table.Keyed keyOf) :
    table.place? key = none ↔ key ∉ table.entries.map keyOf := by
  rw [Option.eq_none_iff_forall_ne_some, List.mem_iff_getElem?, not_exists]
  exact forall_congr' fun place => not_congr (keyed.places key place)

/-- A key leads to the entry that it belongs to. -/
theorem Keyed.getElem (keyed : table.Keyed keyOf) (found : table.place? key = some place) :
    ∃ entry, table.entries[place]? = some entry ∧ keyOf entry = key := by
  have known := (keyed.places key place).mp found
  rw [List.getElem?_map] at known
  exact Option.map_eq_some_iff.mp known

/-- A place that the index gives lies within the table. -/
theorem Keyed.place_lt (keyed : table.Keyed keyOf) (found : table.place? key = some place) :
    place < table.entries.length := by
  obtain ⟨entry, known, _⟩ := keyed.getElem found
  exact (List.getElem?_eq_some_iff.mp known).1

/-- The index gives the place at which a search comes upon the key. -/
theorem Keyed.findIdx_eq [LawfulBEq κ] (keyed : table.Keyed keyOf)
    (found : table.place? key = some place) :
    (table.entries.findIdx fun entry => keyOf entry == key) = place := by
  obtain ⟨entry, known, same⟩ := keyed.getElem found
  obtain ⟨inside, equal⟩ := List.getElem?_eq_some_iff.mp known
  have met : ∃ entry ∈ table.entries, (keyOf entry == key) = true :=
    ⟨entry, List.mem_of_getElem? known, beq_iff_eq.mpr same⟩
  have earlier := List.findIdx_lt_length.mpr met
  -- the search comes upon an entry with this key, and there are no two of them
  have first : keyOf table.entries[table.entries.findIdx fun entry => keyOf entry == key] = key :=
    beq_iff_eq.mp (List.findIdx_getElem (w := earlier))
  have earlierKey : (table.entries.findIdx fun entry => keyOf entry == key) <
      (table.entries.map keyOf).length := by simpa using earlier
  have insideKey : place < (table.entries.map keyOf).length := by simpa using inside
  have keys : (table.entries.map keyOf)[table.entries.findIdx fun entry => keyOf entry == key] =
      (table.entries.map keyOf)[place] := by
    rw [List.getElem_map, List.getElem_map, first, equal, same]
  exact (List.getElem_inj keyed.distinct).mp keys

/-- A new key can be appended with its entry. -/
theorem Keyed.append [LawfulBEq κ] (keyed : table.Keyed keyOf) (fresh : table.place? key = none)
    (own : keyOf entry = key) : (table.append key entry).Keyed keyOf := by
  have absent := keyed.place_eq_none.mp fresh
  constructor
  · rw [IndexedTable.append, List.map_append, List.map_singleton, own, List.nodup_append]
    refine ⟨keyed.distinct, List.nodup_singleton key, fun old known new single => ?_⟩
    rw [List.mem_singleton.mp single]
    exact fun same => absent (same ▸ known)
  · intro other place
    have atEnd : table.entries.length = (table.entries.map keyOf).length := (List.length_map _).symm
    rw [IndexedTable.append, List.map_append, List.map_singleton, own]
    by_cases same : other = key
    · subst other
      rw [place?, List.lookup_cons_self, Option.some.injEq, atEnd]
      constructor
      · rintro rfl
        exact List.getElem?_concat_length
      · intro found
        rw [List.getElem?_append] at found
        split at found
        · exact absurd (List.mem_of_getElem? found) absent
        · rename_i outside
          have inside := (List.getElem?_eq_some_iff.mp found).1
          rw [List.length_singleton] at inside
          omega
    · rw [place?, List.lookup_cons, beq_eq_false_iff_ne.mpr same]
      refine (keyed.places other place).trans ?_
      rw [List.getElem?_append]
      split
      · exact Iff.rfl
      · rename_i outside
        rw [List.getElem?_eq_none (Nat.le_of_not_lt outside), List.getElem?_singleton]
        split
        · simp [Ne.symm same]
        · simp

end IndexedTable

/-! ### Steps -/

/-- What is done to the tables of a builder. -/
inductive TableStep where
  | declare (owner : NodeId) (type : ValueType) (initializer : String)
  | register (name : String) (dimension : Dimension)
  | reset
  deriving DecidableEq

namespace TableStep

def isReset : TableStep → Bool
  | reset => true
  | declare .. | register .. => false

def owner? : TableStep → Option NodeId
  | declare owner _ _ => some owner
  | register .. | reset => none

def texture? : TableStep → Option String
  | register name _ => some name
  | declare .. | reset => none

/-- The steps behind the last reset. -/
def recent (steps : List TableStep) : List TableStep :=
  steps.rtakeWhile fun step => !step.isReset

def owners (steps : List TableStep) : List NodeId :=
  (recent steps).filterMap owner?

def textures (steps : List TableStep) : List String :=
  (recent steps).filterMap texture?

/-- A reset makes all earlier steps old, and any other step joins the recent ones. -/
theorem recent_concat (steps : List TableStep) (step : TableStep) :
    recent (steps ++ [step]) = if step.isReset then [] else recent steps ++ [step] := by
  unfold recent
  rw [List.rtakeWhile_concat]
  cases step.isReset <;> rfl

end TableStep

/-- The tables of a builder with their indices. -/
structure Ledger where
  locals : IndexedTable NodeId LocalVariable
  textures : IndexedTable String TextureBinding

namespace Ledger

def empty : Ledger :=
  ⟨.empty, .empty⟩

/-- None if an index leads out of its table. -/
def apply (ledger : Ledger) : TableStep → Option Ledger
  | .declare owner type initializer =>
    match ledger.locals.place? owner with
    | some place => ledger.locals.entries[place]?.map fun _ => ledger
    | none =>
      let name := Builder.localName type ledger.locals.entries.length
      some { ledger with locals := ledger.locals.append owner ⟨owner, name, type, initializer⟩ }
  | .register name dimension =>
    match ledger.textures.place? name with
    | some place => ledger.textures.entries[place]?.map fun _ => ledger
    | none => some { ledger with textures := ledger.textures.append name ⟨name, dimension⟩ }
  | .reset => some empty

def replay (ledger : Ledger) (steps : List TableStep) : Option Ledger :=
  steps.foldlM apply ledger

/-- Steps in a row are replayed in a row. -/
theorem replay_append (ledger : Ledger) (first second : List TableStep) :
    ledger.replay (first ++ second) = (ledger.replay first).bind fun next => next.replay second :=
  List.foldlM_append

variable {ledger next : Ledger} {step : TableStep} {steps : List TableStep}

/-- All that a step can do: forget everything, nothing if its key is known, and otherwise append one
entry. -/
theorem apply_cases (applied : ledger.apply step = some next) :
    (step = .reset ∧ next = empty) ∨
      (∃ owner type initializer, step = .declare owner type initializer ∧
        ((ledger.locals.place? owner ≠ none ∧ next = ledger) ∨
          ledger.locals.place? owner = none ∧ ∃ name, next = { ledger with
            locals := ledger.locals.append owner ⟨owner, name, type, initializer⟩ })) ∨
      ∃ name dimension, step = .register name dimension ∧
        ((ledger.textures.place? name ≠ none ∧ next = ledger) ∨
          ledger.textures.place? name = none ∧
            next = { ledger with textures := ledger.textures.append name ⟨name, dimension⟩ }) := by
  cases step with
  | declare owner type initializer =>
      refine .inr (.inl ⟨owner, type, initializer, rfl, ?_⟩)
      cases found : ledger.locals.place? owner with
      | some place =>
          simp only [apply, found, Option.map_eq_some_iff, exists_and_right] at applied
          exact .inl ⟨Option.some_ne_none place, applied.2.symm⟩
      | none =>
          simp only [apply, found, Option.some.injEq] at applied
          exact .inr ⟨rfl, _, applied.symm⟩
  | register name dimension =>
      refine .inr (.inr ⟨name, dimension, rfl, ?_⟩)
      cases found : ledger.textures.place? name with
      | some place =>
          simp only [apply, found, Option.map_eq_some_iff, exists_and_right] at applied
          exact .inl ⟨Option.some_ne_none place, applied.2.symm⟩
      | none =>
          simp only [apply, found, Option.some.injEq] at applied
          exact .inr ⟨rfl, applied.symm⟩
  | reset => exact .inl ⟨rfl, (Option.some.inj applied).symm⟩

/-- Both indices fit their tables. -/
structure Sound (ledger : Ledger) : Prop where
  locals : ledger.locals.Keyed LocalVariable.owner
  textures : ledger.textures.Keyed TextureBinding.name

/-- The empty ledger is sound. -/
theorem sound_empty : empty.Sound :=
  ⟨IndexedTable.keyed_empty, IndexedTable.keyed_empty⟩

/-- Every step keeps the indices sound. -/
theorem Sound.apply (sound : ledger.Sound) (applied : ledger.apply step = some next) :
    next.Sound := by
  obtain ⟨_, rfl⟩ | ⟨_, _, _, _, ⟨_, rfl⟩ | ⟨fresh, _, rfl⟩⟩ | ⟨_, _, _, ⟨_, rfl⟩ | ⟨fresh, rfl⟩⟩ :=
    apply_cases applied
  · exact sound_empty
  · exact sound
  · exact ⟨sound.locals.append fresh rfl, sound.textures⟩
  · exact sound
  · exact ⟨sound.locals, sound.textures.append fresh rfl⟩

/-- The tables hold the owners that declared and the names that were registered since the last
reset. -/
structure Accounts (ledger : Ledger) (steps : List TableStep) : Prop where
  owners : ∀ owner,
    owner ∈ ledger.locals.entries.map LocalVariable.owner ↔ owner ∈ TableStep.owners steps
  textures : ∀ name,
    name ∈ ledger.textures.entries.map TextureBinding.name ↔ name ∈ TableStep.textures steps

/-- Every step is accounted for in the table that it goes to. -/
theorem Accounts.apply (accounts : ledger.Accounts steps) (sound : ledger.Sound)
    (applied : ledger.apply step = some next) : next.Accounts (steps ++ [step]) := by
  have known {owner : NodeId} (found : ledger.locals.place? owner ≠ none) :
      owner ∈ TableStep.owners steps := by
    rw [← accounts.owners]
    exact Decidable.not_not.mp fun absent => found (sound.locals.place_eq_none.mpr absent)
  have registered {name : String} (found : ledger.textures.place? name ≠ none) :
      name ∈ TableStep.textures steps := by
    rw [← accounts.textures]
    exact Decidable.not_not.mp fun absent => found (sound.textures.place_eq_none.mpr absent)
  obtain ⟨rfl, rfl⟩ | ⟨owner, type, initializer, rfl, declared⟩ | ⟨name, dimension, rfl, bound⟩ :=
    apply_cases applied
  · constructor <;> simp [empty, IndexedTable.empty, TableStep.owners, TableStep.textures,
      TableStep.recent_concat, TableStep.isReset]
  · have owners : TableStep.owners (steps ++ [.declare owner type initializer]) =
        TableStep.owners steps ++ [owner] := by
      simp [TableStep.owners, TableStep.recent_concat, TableStep.isReset, TableStep.owner?]
    have textures : TableStep.textures (steps ++ [.declare owner type initializer]) =
        TableStep.textures steps := by
      simp [TableStep.textures, TableStep.recent_concat, TableStep.isReset, TableStep.texture?]
    constructor
    · intro other
      rw [owners, List.mem_append, List.mem_singleton, ← accounts.owners]
      obtain ⟨found, rfl⟩ | ⟨_, _, rfl⟩ := declared
      · have old := (accounts.owners owner).mpr (known found)
        exact ⟨.inl, fun either => either.elim id fun same => same ▸ old⟩
      · simp [IndexedTable.append]
    · intro other
      rw [textures, ← accounts.textures]
      obtain ⟨_, rfl⟩ | ⟨_, _, rfl⟩ := declared <;> rfl
  · have owners : TableStep.owners (steps ++ [.register name dimension]) =
        TableStep.owners steps := by
      simp [TableStep.owners, TableStep.recent_concat, TableStep.isReset, TableStep.owner?]
    have textures : TableStep.textures (steps ++ [.register name dimension]) =
        TableStep.textures steps ++ [name] := by
      simp [TableStep.textures, TableStep.recent_concat, TableStep.isReset, TableStep.texture?]
    constructor
    · intro other
      rw [owners, ← accounts.owners]
      obtain ⟨_, rfl⟩ | ⟨_, rfl⟩ := bound <;> rfl
    · intro other
      rw [textures, List.mem_append, List.mem_singleton, ← accounts.textures]
      obtain ⟨found, rfl⟩ | ⟨_, rfl⟩ := bound
      · have old := (accounts.textures name).mpr (registered found)
        exact ⟨.inl, fun either => either.elim id fun same => same ▸ old⟩
      · simp [IndexedTable.append]

/-- The ledger has the entries of the builder, and its indices fit. -/
structure Represents {Custom : Type} (ledger : Ledger) (builder : Builder Custom) : Prop where
  locals : ledger.locals.entries = builder.locals
  textures : ledger.textures.entries = builder.textures
  sound : ledger.Sound
  numbered : Builder.Numbered builder.locals

namespace Represents

variable {Custom : Type} {builder other : Builder Custom}

/-- A ledger represents every builder with the same tables. -/
theorem of_same (represents : ledger.Represents builder) (locals : other.locals = builder.locals)
    (textures : other.textures = builder.textures) : ledger.Represents other where
  locals := represents.locals.trans locals.symm
  textures := represents.textures.trans textures.symm
  sound := represents.sound
  numbered := locals ▸ represents.numbered

/-- The empty ledger represents a builder that was reset. -/
theorem reset (builder : Builder Custom) : empty.Represents builder.reset where
  locals := rfl
  textures := rfl
  sound := sound_empty
  numbered index declared found := by simp [Builder.reset] at found

/-- The index never leads out of the table of locals. -/
theorem declare (represents : ledger.Represents builder) (owner : NodeId) (type : ValueType)
    (initializer : String) :
    ∃ next, ledger.apply (.declare owner type initializer) = some next ∧
      next.Represents (builder.declareLocal owner type initializer).2 := by
  have numbered := Builder.declareLocal_numbered represents.numbered owner type initializer
  have known : (∃ declared ∈ builder.locals, declared.owner = owner) ↔
      ledger.locals.place? owner ≠ none := by
    rw [Ne, represents.sound.locals.place_eq_none, not_not, represents.locals, List.mem_map]
  cases found : ledger.locals.place? owner with
  | some place =>
      have inside := represents.sound.locals.place_lt found
      have applied : ledger.apply (.declare owner type initializer) = some ledger := by
        simp only [apply, found, List.getElem?_eq_getElem inside, Option.map_some]
      refine ⟨ledger, applied, ?_⟩
      obtain ⟨_, _, _, same⟩ | ⟨missing, _⟩ := builder.declareLocal_spec owner type initializer
      · rw [same]
        exact represents
      · obtain ⟨declared, member, owned⟩ := known.mpr (by simp [found])
        exact absurd owned (missing declared member)
  | none =>
      let declared : LocalVariable :=
        ⟨owner, Builder.localName type ledger.locals.entries.length, type, initializer⟩
      have applied : ledger.apply (.declare owner type initializer) =
          some { ledger with locals := ledger.locals.append owner declared } := by
        simp only [apply, found, declared]
      refine ⟨_, applied, ?_⟩
      obtain ⟨other, member, owned, _⟩ | ⟨_, appended⟩ :=
        builder.declareLocal_spec owner type initializer
      · exact absurd found (known.mp ⟨other, member, owned⟩)
      · refine ⟨?_, ?_, represents.sound.apply applied, numbered⟩
        · rw [appended]
          simp only [IndexedTable.append, declared, represents.locals]
        · rw [appended]
          exact represents.textures

/-- The index never leads out of the table of textures, and a refusal changes no table. -/
theorem register (represents : ledger.Represents builder) (name : String) (dimension : Dimension) :
    ∃ next, ledger.apply (.register name dimension) = some next ∧
      (∀ index later, builder.registerTexture name dimension = .ok (index, later) →
        next.Represents later) ∧
      ∀ clash, builder.registerTexture name dimension = .error clash → next.Represents builder := by
  have known : (∃ binding ∈ builder.textures, binding.name = name) ↔
      ledger.textures.place? name ≠ none := by
    rw [Ne, represents.sound.textures.place_eq_none, not_not, represents.textures, List.mem_map]
  cases found : ledger.textures.place? name with
  | some place =>
      have inside := represents.sound.textures.place_lt found
      have applied : ledger.apply (.register name dimension) = some ledger := by
        simp only [apply, found, List.getElem?_eq_getElem inside, Option.map_some]
      refine ⟨ledger, applied, fun index later registered => ?_, fun _ _ => represents⟩
      obtain ⟨_, rfl⟩ | ⟨missing, _⟩ := Builder.registerTexture_spec registered
      · exact represents
      · obtain ⟨binding, member, named⟩ := known.mpr (by simp [found])
        exact absurd named (missing binding member)
  | none =>
      have applied : ledger.apply (.register name dimension) =
          some { ledger with textures := ledger.textures.append name ⟨name, dimension⟩ } := by
        simp only [apply, found]
      refine ⟨_, applied, fun index later registered => ?_, fun clash refused => ?_⟩
      · obtain ⟨member, _⟩ | ⟨_, rfl⟩ := Builder.registerTexture_spec registered
        · exact absurd found (known.mp ⟨_, member, rfl⟩)
        · refine ⟨represents.locals, ?_, represents.sound.apply applied, represents.numbered⟩
          simp only [IndexedTable.append, represents.textures]
      · obtain ⟨registered, _, member, _⟩ := Builder.registerTexture_clash refused
        exact absurd found (known.mp ⟨_, member, rfl⟩)

end Represents

end Ledger

end ShadeTree
