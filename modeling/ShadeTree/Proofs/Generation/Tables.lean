import ShadeTree.Proofs.Generation.Derivation

/-!
What a derivation keeps of a builder and what it adds to it.

The stack is as before, and the tables of declarations only grow. A name or a texture that an
expression refers to is in the tables from then on.
-/

namespace ShadeTree

namespace Builder

variable {Custom : Type} {builder later last : Builder Custom}

/-- A builder further on in the same compilation. -/
structure Extends (later builder : Builder Custom) : Prop where
  config : later.config = builder.config
  frames : later.frames = builder.frames
  floor : later.floor = builder.floor
  locals : builder.locals <+: later.locals
  textures : builder.textures <+: later.textures

namespace Extends

theorem refl (builder : Builder Custom) : builder.Extends builder :=
  ⟨rfl, rfl, rfl, List.prefix_rfl, List.prefix_rfl⟩

theorem trans (second : last.Extends later) (first : later.Extends builder) :
    last.Extends builder where
  config := second.config.trans first.config
  frames := second.frames.trans first.frames
  floor := second.floor.trans first.floor
  locals := first.locals.trans second.locals
  textures := first.textures.trans second.textures

/-- The frame of a scope is gone after it, and its declarations stay. -/
theorem leave {frame : Frame Custom} (inside : later.Extends (builder.enter frame)) :
    (later.leave builder).Extends builder where
  config := inside.config
  frames := by
    have frames : later.frames = frame :: builder.frames := inside.frames
    simp [Builder.leave, frames, Frames.truncate, Builder.depth]
  floor := rfl
  locals := inside.locals
  textures := inside.textures

end Extends

/-! ### Locals -/

/-- A node that has a local gets its name, and any other one a new local at the end of the table. -/
theorem declareLocal_spec (builder : Builder Custom) (owner : NodeId) (type : ValueType)
    (initializer : String) :
    (∃ declared ∈ builder.locals, declared.owner = owner ∧
        builder.declareLocal owner type initializer = (declared.name, builder)) ∨
      (∀ declared ∈ builder.locals, declared.owner ≠ owner) ∧
        builder.declareLocal owner type initializer =
          (localName type builder.locals.length,
            { builder with
              locals := builder.locals ++
                [⟨owner, localName type builder.locals.length, type, initializer⟩] }) := by
  unfold declareLocal
  dsimp only
  cases found : builder.locals[builder.localIndex owner]? with
  | some declared =>
      left
      obtain ⟨inside, equal⟩ := List.getElem?_eq_some_iff.mp found
      have owned := List.findIdx_getElem (w := inside)
      exact ⟨declared, List.mem_of_getElem? found, equal ▸ beq_iff_eq.mp owned, rfl⟩
  | none =>
      right
      have atEnd : builder.localIndex owner = builder.locals.length :=
        Nat.le_antisymm List.findIdx_le_length (List.getElem?_eq_none_iff.mp found)
      have missing := List.findIdx_eq_length.mp atEnd
      refine ⟨fun declared member => beq_eq_false_iff_ne.mp (missing declared member), ?_⟩
      rw [atEnd]

/-- A name that is given out belongs to a local of its owner. -/
theorem declareLocal_member (builder : Builder Custom) (owner : NodeId) (type : ValueType)
    (initializer : String) :
    ∃ declared ∈ (builder.declareLocal owner type initializer).2.locals,
      declared.owner = owner ∧ declared.name = (builder.declareLocal owner type initializer).1 := by
  obtain ⟨declared, member, owned, equal⟩ | ⟨_, equal⟩ := builder.declareLocal_spec owner type initializer
  · rw [equal]
    exact ⟨declared, member, owned, rfl⟩
  · rw [equal]
    exact ⟨_, List.mem_append_right _ (List.mem_singleton_self _), rfl, rfl⟩

/-- Declaring a local only adds to the tables. -/
theorem declareLocal_extends (builder : Builder Custom) (owner : NodeId) (type : ValueType)
    (initializer : String) : (builder.declareLocal owner type initializer).2.Extends builder := by
  obtain ⟨_, _, _, equal⟩ | ⟨_, equal⟩ := builder.declareLocal_spec owner type initializer
  · rw [equal]
    exact .refl builder
  · rw [equal]
    exact ⟨rfl, rfl, rfl, List.prefix_append _ _, List.prefix_rfl⟩

/-- The names of locals are made of their types and of their places in the table. -/
def Numbered (locals : List LocalVariable) : Prop :=
  ∀ index declared, locals[index]? = some declared →
    declared.name = localName declared.type index

/-- A new local has the next number. -/
theorem declareLocal_numbered (numbered : Numbered builder.locals) (owner : NodeId)
    (type : ValueType) (initializer : String) :
    Numbered (builder.declareLocal owner type initializer).2.locals := by
  obtain ⟨_, _, _, equal⟩ | ⟨_, equal⟩ := builder.declareLocal_spec owner type initializer
  · rw [equal]
    exact numbered
  · rw [equal]
    intro index declared found
    dsimp only at found
    rw [List.getElem?_append] at found
    split at found
    · exact numbered index declared found
    · rename_i outside
      have inside := (List.getElem?_eq_some_iff.mp found).1
      have atEnd : index = builder.locals.length := by
        simp at inside
        omega
      rw [atEnd] at found ⊢
      simp at found
      rw [← found]

/-! ### Textures -/

/-- A registered texture keeps its dimension, and any other one gets a new binding at the end of the
table. -/
theorem registerTexture_spec {name : String} {dimension : Dimension} {index : Nat}
    (registered : builder.registerTexture name dimension = .ok (index, later)) :
    ⟨name, dimension⟩ ∈ builder.textures ∧ later = builder ∨
      (∀ binding ∈ builder.textures, binding.name ≠ name) ∧
        later = { builder with textures := builder.textures ++ [⟨name, dimension⟩] } := by
  unfold registerTexture at registered
  dsimp only at registered
  cases found : builder.textures[builder.textureIndex name]? with
  | some binding =>
      left
      obtain ⟨inside, equal⟩ := List.getElem?_eq_some_iff.mp found
      have named : binding.name = name := equal ▸ beq_iff_eq.mp (List.findIdx_getElem (w := inside))
      by_cases agrees : binding.dimension = dimension
      · simp only [found, agrees, if_true, Except.ok.injEq, Prod.mk.injEq] at registered
        rw [← named, ← agrees]
        exact ⟨List.mem_of_getElem? found, registered.2.symm⟩
      · simp only [found, agrees, if_false, reduceCtorEq] at registered
  | none =>
      right
      have atEnd : builder.textureIndex name = builder.textures.length :=
        Nat.le_antisymm List.findIdx_le_length (List.getElem?_eq_none_iff.mp found)
      have missing := List.findIdx_eq_length.mp atEnd
      simp only [found, Except.ok.injEq, Prod.mk.injEq] at registered
      exact ⟨fun binding member => beq_eq_false_iff_ne.mp (missing binding member),
        registered.2.symm⟩

/-- A texture that is registered has a binding with its dimension. -/
theorem registerTexture_member {name : String} {dimension : Dimension} {index : Nat}
    (registered : builder.registerTexture name dimension = .ok (index, later)) :
    ⟨name, dimension⟩ ∈ later.textures := by
  obtain ⟨member, rfl⟩ | ⟨_, rfl⟩ := registerTexture_spec registered
  · exact member
  · exact List.mem_append_right _ (List.mem_singleton_self _)

/-- Names are registered once. -/
theorem registerTexture_nodup {name : String} {dimension : Dimension} {index : Nat}
    (registered : builder.registerTexture name dimension = .ok (index, later))
    (once : (builder.textures.map TextureBinding.name).Nodup) :
    (later.textures.map TextureBinding.name).Nodup := by
  obtain ⟨_, rfl⟩ | ⟨free, rfl⟩ := registerTexture_spec registered
  · exact once
  · rw [List.map_append, List.map_singleton, List.nodup_append]
    refine ⟨once, by simp, fun other known new fresh => ?_⟩
    obtain ⟨binding, member, rfl⟩ := List.mem_map.mp known
    rw [List.mem_singleton.mp fresh]
    exact free binding member

/-- A texture is refused only if it is registered under the other dimension. -/
theorem registerTexture_clash {name : String} {dimension : Dimension} {clash : DimensionClash}
    (refused : builder.registerTexture name dimension = .error clash) :
    ∃ registered, registered ≠ dimension ∧ ⟨name, registered⟩ ∈ builder.textures ∧
      clash = ⟨name, registered, dimension⟩ := by
  unfold registerTexture at refused
  dsimp only at refused
  cases found : builder.textures[builder.textureIndex name]? with
  | some binding =>
      obtain ⟨inside, equal⟩ := List.getElem?_eq_some_iff.mp found
      have named : binding.name = name := equal ▸ beq_iff_eq.mp (List.findIdx_getElem (w := inside))
      by_cases agrees : binding.dimension = dimension
      · simp only [found, agrees, if_true, reduceCtorEq] at refused
      · simp only [found, agrees, if_false, Except.error.injEq] at refused
        refine ⟨binding.dimension, agrees, ?_, refused.symm⟩
        rw [← named]
        exact List.mem_of_getElem? found
  | none => simp only [found, reduceCtorEq] at refused

/-- Registering a texture only adds to the tables. -/
theorem registerTexture_extends {name : String} {dimension : Dimension} {index : Nat}
    (registered : builder.registerTexture name dimension = .ok (index, later)) :
    later.Extends builder := by
  obtain ⟨_, rfl⟩ | ⟨_, rfl⟩ := registerTexture_spec registered
  · exact .refl _
  · exact ⟨rfl, rfl, rfl, List.prefix_rfl, List.prefix_append _ _⟩

end Builder

open Builder.Extends

/-- Whatever is generated, the builder afterwards is further on in the same compilation. -/
theorem Generates.extends {supply : Supply Empty} {builder after : Builder Empty} {demand : Demand}
    {expression : TypedTerm} (generates : Generates supply builder demand expression after) :
    after.Extends builder := by
  induction generates with
  | expression | inlined | normal | literal | input | smooth => exact .refl _
  | declared => exact Builder.declareLocal_extends ..
  | context inside ih => exact ih.leave
  | override found inside ih | redirected found inside ih | rough found inside ih => exact ih
  | fallback missing inside ih => exact ih
  | converted inside conversion ih => exact ih
  | tree inside ih => exact ih
  | sample supplied addressed dimensioned blurred finite registered first second =>
      exact (Builder.registerTexture_extends registered).trans (second.trans first)
  | binary leftDone rightDone unified first second => exact second.trans first
  | mix leftDone rightDone unified factorDone first second third =>
      exact third.trans (second.trans first)

/-- A local holds the number of a node that was supplied. -/
structure LocalVariable.Holds (supply : Supply Empty) (declared : LocalVariable) : Prop where
  number : ∃ value, supply.has (.node (.float declared.owner value false)) ∧
    value.literal? = some declared.initializer
  name : ∃ index, declared.name = Builder.localName .f32 index
  type : declared.type = .f32

/-- What declaring the numbers of supplied nodes keeps of the table of locals, a derivation keeps. -/
theorem Generates.keeps_locals {supply : Supply Empty} {builder after : Builder Empty}
    {demand : Demand} {expression : TypedTerm} (Keeps : List LocalVariable → Prop)
    (generates : Generates supply builder demand expression after)
    (declares : ∀ (builder : Builder Empty) (id : NodeId) (value : Number.Single) (text : String),
      supply.has (.node (.float id value false)) → value.literal? = some text →
        Keeps builder.locals → Keeps (builder.declareLocal id .f32 text).2.locals)
    (before : Keeps builder.locals) : Keeps after.locals := by
  induction generates with
  | expression | inlined | normal | literal | input | smooth => exact before
  | declared supplied written => exact declares _ _ _ _ supplied written before
  | context inside ih => exact ih before
  | override found inside ih | redirected found inside ih | rough found inside ih => exact ih before
  | fallback missing inside ih => exact ih before
  | converted inside conversion ih => exact ih before
  | tree inside ih => exact ih before
  | sample supplied addressed dimensioned blurred finite registered first second =>
      obtain ⟨_, rfl⟩ | ⟨_, rfl⟩ := Builder.registerTexture_spec registered
      · exact second (first before)
      · exact second (first before)
  | binary leftDone rightDone unified first second => exact second (first before)
  | mix leftDone rightDone unified factorDone first second third =>
      exact third (second (first before))

/-- The locals that a derivation adds hold numbers of supplied nodes. -/
theorem Generates.holds {supply : Supply Empty} {builder after : Builder Empty} {demand : Demand}
    {expression : TypedTerm} (generates : Generates supply builder demand expression after)
    (before : ∀ declared ∈ builder.locals, declared.Holds supply) :
    ∀ declared ∈ after.locals, declared.Holds supply := by
  refine generates.keeps_locals (fun locals => ∀ declared ∈ locals, declared.Holds supply) ?_ before
  intro builder id value text supplied written held
  obtain ⟨_, _, _, equal⟩ | ⟨_, equal⟩ := builder.declareLocal_spec id .f32 text
  · rw [equal]
    exact held
  · rw [equal]
    intro declared member
    rcases List.mem_append.mp member with old | new
    · exact held declared old
    · rw [List.mem_singleton.mp new]
      exact ⟨⟨value, supplied, written⟩, ⟨_, rfl⟩, rfl⟩

/-- Locals are numbered in the order in which they are declared. -/
theorem Generates.numbered {supply : Supply Empty} {builder after : Builder Empty} {demand : Demand}
    {expression : TypedTerm} (generates : Generates supply builder demand expression after)
    (before : Builder.Numbered builder.locals) : Builder.Numbered after.locals := by
  refine generates.keeps_locals Builder.Numbered ?_ before
  intro builder id value text supplied written numbered
  exact Builder.declareLocal_numbered numbered id .f32 text

/-- What registering textures keeps of their table, a derivation keeps. -/
theorem Generates.keeps_textures {supply : Supply Empty} {builder after : Builder Empty}
    {demand : Demand} {expression : TypedTerm} (Keeps : List TextureBinding → Prop)
    (generates : Generates supply builder demand expression after)
    (registers : ∀ (builder later : Builder Empty) (name : String) (dimension : Dimension)
      (index : Nat), builder.registerTexture name dimension = .ok (index, later) →
        Keeps builder.textures → Keeps later.textures)
    (before : Keeps builder.textures) : Keeps after.textures := by
  induction generates with
  | expression | inlined | normal | literal | input | smooth => exact before
  | @declared builder id value output text supplied written =>
      obtain ⟨_, _, _, equal⟩ | ⟨_, equal⟩ := builder.declareLocal_spec id .f32 text
      · rw [equal]
        exact before
      · rw [equal]
        exact before
  | context inside ih => exact ih before
  | override found inside ih | redirected found inside ih | rough found inside ih => exact ih before
  | fallback missing inside ih => exact ih before
  | converted inside conversion ih => exact ih before
  | tree inside ih => exact ih before
  | sample supplied addressed dimensioned blurred finite registered first second =>
      exact registers _ _ _ _ _ registered (second (first before))
  | binary leftDone rightDone unified first second => exact second (first before)
  | mix leftDone rightDone unified factorDone first second third =>
      exact third (second (first before))

/-- The textures of a compilation have different names. -/
theorem Generates.textures_nodup {supply : Supply Empty} {builder after : Builder Empty}
    {demand : Demand} {expression : TypedTerm}
    (generates : Generates supply builder demand expression after)
    (before : (builder.textures.map TextureBinding.name).Nodup) :
    (after.textures.map TextureBinding.name).Nodup := by
  refine generates.keeps_textures (fun textures => (textures.map TextureBinding.name).Nodup) ?_ before
  intro builder later name dimension index registered once
  exact Builder.registerTexture_nodup registered once

end ShadeTree
