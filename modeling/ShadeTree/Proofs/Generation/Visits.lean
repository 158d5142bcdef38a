import ShadeTree.Proofs.Declaration.History
import ShadeTree.Proofs.Generation.Conversion
import ShadeTree.Proofs.Generation.Soundness

/-!
The order of declarations.

A tree determines, without a builder, in which order its numbers and samples are come past: a context
leads to its child under its frame, a reader to what its key finds there, and a sample to its
overrides first. The tables of a build are what is left of this sequence when everything that was
there before is dropped from it.
-/

namespace ShadeTree

open Number

/-! ### Sequences of visits -/

/-- What is declared when a traversal comes past it. -/
inductive Visit where
  | number (id : NodeId) (value : Single)
  | sample (texture : String) (dimension : Dimension)
  deriving DecidableEq

namespace Visit

def number? : Visit → Option (NodeId × Single)
  | number id value => some (id, value)
  | sample .. => none

def binding? : Visit → Option TextureBinding
  | number .. => none
  | sample texture dimension => some ⟨texture, dimension⟩

def numbers (visits : List Visit) : List (NodeId × Single) :=
  visits.filterMap number?

def bindings (visits : List Visit) : List TextureBinding :=
  visits.filterMap binding?

end Visit

/-- Where a traversal is: at a value, or at what is installed under a key, if anything is. -/
inductive Stop where
  | value (value : Value Empty)
  | key (key : String)

/-- What is come past, from a stop on and under a stack of frames. Operands come from left to right,
and a sample comes after its coordinate and its roughness. -/
inductive Visits : Frames Empty → Stop → List Visit → Prop
  | literal {frames : Frames Empty} {snippet : Snippet} :
      Visits frames (.value (.literal snippet)) []
  | expression {frames : Frames Empty} {id : NodeId} {snippet : String} {type : ValueType} :
      Visits frames (.value (.node (.expression id snippet type))) []
  | inlined {frames : Frames Empty} {id : NodeId} {value : Single} :
      Visits frames (.value (.node (.float id value true))) []
  | declared {frames : Frames Empty} {id : NodeId} {value : Single} :
      Visits frames (.value (.node (.float id value false))) [.number id value]
  | normal {frames : Frames Empty} {id : NodeId} {space : NormalSpace} :
      Visits frames (.value (.node (.normal id space))) []
  | context {frames : Frames Empty} {id : NodeId} {type : Option ValueType}
      {overrides : Frame Empty} {child : Node Empty} {visits : List Visit}
      (inside : Visits (overrides :: frames) (.value (.node child)) visits) :
      Visits frames (.value (.node (.context id type overrides child))) visits
  | override {frames : Frames Empty} {id : NodeId} {key : String} {fallback : Node Empty}
      {value : Value Empty} {visits : List Visit} (found : frames.find? key = some value)
      (inside : Visits frames (.value value) visits) :
      Visits frames (.value (.node (.reader id key fallback))) visits
  | fallback {frames : Frames Empty} {id : NodeId} {key : String} {fallback : Node Empty}
      {visits : List Visit} (missing : frames.find? key = none)
      (inside : Visits frames (.value (.node fallback)) visits) :
      Visits frames (.value (.node (.reader id key fallback))) visits
  | sample {frames : Frames Empty} {id : NodeId} {texture : String} {dimension : Dimension}
      {first second : List Visit} (addressed : Visits frames (.key uvKey) first)
      (blurred : Visits frames (.key roughnessKey) second)
      (dimensioned : Dimension.ofCoordinate? frames.coordinateType = some dimension) :
      Visits frames (.value (.node (.sample id texture)))
        (first ++ (second ++ [.sample texture dimension]))
  | binary {frames : Frames Empty} {id : NodeId} {operation : BinaryOperation}
      {left right : Node Empty} {first second : List Visit}
      (leftDone : Visits frames (.value (.node left)) first)
      (rightDone : Visits frames (.value (.node right)) second) :
      Visits frames (.value (.node (.binary id operation left right))) (first ++ second)
  | mix {frames : Frames Empty} {id : NodeId} {left right factor : Node Empty}
      {first second third : List Visit} (leftDone : Visits frames (.value (.node left)) first)
      (rightDone : Visits frames (.value (.node right)) second)
      (factorDone : Visits frames (.value (.node factor)) third) :
      Visits frames (.value (.node (.mix id left right factor))) (first ++ (second ++ third))
  | installed {frames : Frames Empty} {key : String} {value : Value Empty} {visits : List Visit}
      (found : frames.find? key = some value) (inside : Visits frames (.value value) visits) :
      Visits frames (.key key) visits
  | missing {frames : Frames Empty} {key : String} (missing : frames.find? key = none) :
      Visits frames (.key key) []

/-- The frames and the stop determine the sequence. -/
theorem Visits.unique {frames : Frames Empty} {stop : Stop} {visits others : List Visit}
    (left : Visits frames stop visits) (right : Visits frames stop others) : others = visits := by
  induction left generalizing others with
  | literal | expression | inlined | declared | normal =>
      cases right
      rfl
  | context _ ih =>
      cases right with
      | context inside => exact ih inside
  | override found _ ih =>
      cases right with
      | override known inside =>
          cases found.symm.trans known
          exact ih inside
      | fallback missing => cases found.symm.trans missing
  | fallback missing _ ih =>
      cases right with
      | override known => cases missing.symm.trans known
      | fallback _ inside => exact ih inside
  | sample _ _ dimensioned first second =>
      cases right with
      | sample addressed blurred known =>
          cases dimensioned.symm.trans known
          rw [first addressed, second blurred]
  | binary _ _ first second =>
      cases right with
      | binary leftDone rightDone => rw [first leftDone, second rightDone]
  | mix _ _ _ first second third =>
      cases right with
      | mix leftDone rightDone factorDone =>
          rw [first leftDone, second rightDone, third factorDone]
  | installed found _ ih =>
      cases right with
      | installed known inside =>
          cases found.symm.trans known
          exact ih inside
      | missing missing => cases found.symm.trans missing
  | missing missing =>
      cases right with
      | installed known => cases missing.symm.trans known
      | missing => rfl

/-! ### First occurrences -/

/-- A new element stays at the end. -/
theorem eraseDups_concat {α : Type} [BEq α] [LawfulBEq α] {list : List α} {element : α}
    (fresh : element ∉ list) : (list ++ [element]).eraseDups = list.eraseDups ++ [element] := by
  have kept : [element].removeAll list = [element] := by simp [List.removeAll, fresh]
  rw [List.eraseDups_append, kept]
  rfl

/-- An element that is there already is dropped at the end. -/
theorem eraseDups_concat_of_mem {α : Type} [BEq α] [LawfulBEq α] {list : List α} {element : α}
    (known : element ∈ list) : (list ++ [element]).eraseDups = list.eraseDups := by
  have dropped : [element].removeAll list = [] := by simp [List.removeAll, known]
  rw [List.eraseDups_append, dropped]
  simp

/-- No element is left twice. -/
theorem nodup_eraseDups {α : Type} [BEq α] [LawfulBEq α] (list : List α) : list.eraseDups.Nodup := by
  induction list using List.reverseRecOn with
  | nil => exact List.nodup_nil
  | append_singleton list element ih =>
      by_cases known : element ∈ list
      · rwa [eraseDups_concat_of_mem known]
      · rw [eraseDups_concat known]
        apply ih.append (List.nodup_singleton element)
        rw [List.disjoint_singleton, List.mem_eraseDups]
        exact known

/-- The local of a number that is the given one among the distinct numbers. -/
def Visit.local? (index : Nat) (number : NodeId × Single) : Option LocalVariable :=
  number.2.literal?.map fun text => ⟨number.1, "nf_float_" ++ toString index, .f32, text⟩

/-- The tables after the visits. -/
structure Tally (supply : Supply Empty) (seen : List Visit) (locals : List LocalVariable)
    (textures : List TextureBinding) : Prop where
  supplied : ∀ number ∈ Visit.numbers seen, supply.has (.node (.float number.1 number.2 false))
  declared : locals.map some = (Visit.numbers seen).eraseDups.mapIdx Visit.local?
  owners : locals.map LocalVariable.owner = ((Visit.numbers seen).map Prod.fst).eraseDups
  bound : textures = (Visit.bindings seen).eraseDups
  names : textures.map TextureBinding.name =
    ((Visit.bindings seen).map TextureBinding.name).eraseDups

namespace Tally

variable {supply : Supply Empty} {seen : List Visit} {builder later : Builder Empty}

theorem empty (supply : Supply Empty) : Tally supply [] [] [] := by
  constructor <;> simp [Visit.numbers, Visit.bindings]

/-- The owners of locals are the nodes whose numbers were visited. -/
theorem mem_owners (tally : Tally supply seen builder.locals builder.textures) (id : NodeId) :
    (∃ declared ∈ builder.locals, declared.owner = id) ↔
      ∃ value, (id, value) ∈ Visit.numbers seen := by
  have owners : id ∈ builder.locals.map LocalVariable.owner ↔
      id ∈ (Visit.numbers seen).map Prod.fst := by rw [tally.owners, List.mem_eraseDups]
  simpa using owners

/-- The registered names are those of the bindings that were visited. -/
theorem mem_names (tally : Tally supply seen builder.locals builder.textures) (name : String) :
    (∃ binding ∈ builder.textures, binding.name = name) ↔
      name ∈ (Visit.bindings seen).map TextureBinding.name := by
  rw [← List.mem_eraseDups, ← tally.names, List.mem_map]

/-- A number that is declared again is there already, and a new one comes last. -/
theorem declare (identified : supply.Identified)
    (tally : Tally supply seen builder.locals builder.textures) {id : NodeId} {value : Single}
    {text : String} (supplied : supply.has (.node (.float id value false)))
    (written : value.literal? = some text) :
    let after := (builder.declareLocal id .f32 text).2
    Tally supply (seen ++ [.number id value]) after.locals after.textures := by
  intro after
  have numbers : Visit.numbers (seen ++ [.number id value]) = Visit.numbers seen ++ [(id, value)] := by
    simp [Visit.numbers, Visit.number?]
  have bindings : Visit.bindings (seen ++ [.number id value]) = Visit.bindings seen := by
    simp [Visit.bindings, Visit.binding?]
  have allSupplied : ∀ number ∈ Visit.numbers (seen ++ [.number id value]),
      supply.has (.node (.float number.1 number.2 false)) := by
    intro number member
    rw [numbers, List.mem_append, List.mem_singleton] at member
    rcases member with old | rfl
    · exact tally.supplied number old
    · exact supplied
  obtain ⟨declared, member, owned, equal⟩ | ⟨fresh, equal⟩ := builder.declareLocal_spec id .f32 text
  · -- nodes with one id are one node, so it is this number that was come past before
    obtain ⟨other, before⟩ := (tally.mem_owners id).mp ⟨declared, member, owned⟩
    have node := identified _ _ (tally.supplied _ before) supplied rfl
    injection node with _ same _
    subst same
    have same : after = builder := congrArg Prod.snd equal
    rw [same]
    constructor
    · exact allSupplied
    · rw [numbers, eraseDups_concat_of_mem before, tally.declared]
    · rw [numbers, List.map_append, List.map_singleton,
        eraseDups_concat_of_mem (List.mem_map_of_mem before), tally.owners]
    · rw [bindings, tally.bound]
    · rw [bindings, tally.names]
  · have new : ∀ other, (id, other) ∉ Visit.numbers seen := by
      intro other before
      obtain ⟨declared, member, owned⟩ := (tally.mem_owners id).mpr ⟨other, before⟩
      exact fresh declared member owned
    have unowned : id ∉ (Visit.numbers seen).map Prod.fst := by simpa using new
    have length : builder.locals.length = (Visit.numbers seen).eraseDups.length := by
      simpa using congrArg List.length tally.declared
    have locals : after.locals = builder.locals ++
        [⟨id, Builder.localName .f32 builder.locals.length, .f32, text⟩] :=
      congrArg (fun result => result.2.locals) equal
    have textures : after.textures = builder.textures :=
      congrArg (fun result => result.2.textures) equal
    constructor
    · exact allSupplied
    · rw [numbers, eraseDups_concat (new value), List.mapIdx_concat, ← tally.declared, locals,
        List.map_append, ← length]
      simp [Visit.local?, written, Builder.localName, Builder.localPrefix]
    · rw [numbers, List.map_append, List.map_singleton, eraseDups_concat unowned, ← tally.owners,
        locals, List.map_append, List.map_singleton]
    · rw [bindings, textures, tally.bound]
    · rw [bindings, textures, tally.names]

/-- A texture that is sampled again is there already with its dimension, and a new one comes last. -/
theorem register (tally : Tally supply seen builder.locals builder.textures) {name : String}
    {dimension : Dimension} {index : Nat}
    (registered : builder.registerTexture name dimension = .ok (index, later)) :
    Tally supply (seen ++ [.sample name dimension]) later.locals later.textures := by
  have numbers : Visit.numbers (seen ++ [.sample name dimension]) = Visit.numbers seen := by
    simp [Visit.numbers, Visit.number?]
  have bindings : Visit.bindings (seen ++ [.sample name dimension]) =
      Visit.bindings seen ++ [⟨name, dimension⟩] := by
    simp [Visit.bindings, Visit.binding?]
  have names : (Visit.bindings (seen ++ [.sample name dimension])).map TextureBinding.name =
      (Visit.bindings seen).map TextureBinding.name ++ [name] := by
    rw [bindings, List.map_append, List.map_singleton]
  obtain ⟨member, rfl⟩ | ⟨fresh, rfl⟩ := Builder.registerTexture_spec registered
  · have before : ⟨name, dimension⟩ ∈ Visit.bindings seen := by
      rwa [tally.bound, List.mem_eraseDups] at member
    have named : name ∈ (Visit.bindings seen).map TextureBinding.name := by
      rw [← tally.mem_names]
      exact ⟨_, member, rfl⟩
    constructor
    · exact numbers ▸ tally.supplied
    · exact numbers ▸ tally.declared
    · exact numbers ▸ tally.owners
    · rw [bindings, eraseDups_concat_of_mem before, ← tally.bound]
    · rw [names, eraseDups_concat_of_mem named, tally.names]
  · have unnamed : name ∉ (Visit.bindings seen).map TextureBinding.name := by
      rw [← tally.mem_names]
      rintro ⟨binding, member, same⟩
      exact fresh binding member same
    have new : ⟨name, dimension⟩ ∉ Visit.bindings seen :=
      fun before => unnamed (List.mem_map_of_mem before)
    constructor
    · exact numbers ▸ tally.supplied
    · exact numbers ▸ tally.declared
    · exact numbers ▸ tally.owners
    · rw [bindings, eraseDups_concat new, ← tally.bound]
    · rw [names, eraseDups_concat unnamed, ← tally.names, List.map_append, List.map_singleton]

/-- Every number that is come past has a local with its literal. -/
theorem local_mem (tally : Tally supply seen builder.locals builder.textures) {id : NodeId}
    {value : Single} (visited : .number id value ∈ seen) :
    ∃ declared ∈ builder.locals, declared.owner = id ∧
      value.literal? = some declared.initializer := by
  have member : (id, value) ∈ (Visit.numbers seen).eraseDups := by
    rw [List.mem_eraseDups, Visit.numbers, List.mem_filterMap]
    exact ⟨_, visited, rfl⟩
  obtain ⟨index, inside, found⟩ := List.mem_iff_getElem.mp member
  have placed : Visit.local? index (id, value) ∈ builder.locals.map some := by
    rw [tally.declared, List.mem_mapIdx]
    exact ⟨index, inside, by rw [found]⟩
  obtain ⟨declared, known, made⟩ := List.mem_map.mp placed
  obtain ⟨text, written, rfl⟩ := Option.map_eq_some_iff.mp made.symm
  exact ⟨_, known, rfl, written⟩

end Tally

/-! ### Derivations and visits -/

/-- Where a traversal is for a demand. -/
def Demand.stop : Demand → Stop
  | raw tree _ | node tree _ => .value (.node tree)
  | value found _ => .value found
  | coordinate => .key uvKey
  | roughness => .key roughnessKey

/-- What a derivation comes past is added to the tables. By induction on the derivation, whose rules
go where the traversal goes. -/
theorem Generates.visits {supply : Supply Empty} (identified : supply.Identified)
    {builder after : Builder Empty} {demand : Demand} {expression : TypedTerm}
    (generates : Generates supply builder demand expression after) {seen : List Visit}
    (tally : Tally supply seen builder.locals builder.textures) :
    ∃ visits, Visits builder.frames demand.stop visits ∧
      Tally supply (seen ++ visits) after.locals after.textures := by
  induction generates generalizing seen with
  | expression => exact ⟨[], .expression, by simpa using tally⟩
  | inlined => exact ⟨[], .inlined, by simpa using tally⟩
  | normal => exact ⟨[], .normal, by simpa using tally⟩
  | literal => exact ⟨[], .literal, by simpa using tally⟩
  | input missing | smooth missing => exact ⟨[], .missing missing, by simpa using tally⟩
  | declared supplied written => exact ⟨_, .declared, tally.declare identified supplied written⟩
  | context inside ih =>
      obtain ⟨visits, came, recorded⟩ := ih tally
      exact ⟨visits, .context came, recorded⟩
  | override found inside ih =>
      obtain ⟨visits, came, recorded⟩ := ih tally
      exact ⟨visits, .override found came, recorded⟩
  | redirected found inside ih | rough found inside ih =>
      obtain ⟨visits, came, recorded⟩ := ih tally
      exact ⟨visits, .installed found came, recorded⟩
  | fallback missing inside ih =>
      obtain ⟨visits, came, recorded⟩ := ih tally
      exact ⟨visits, .fallback missing came, recorded⟩
  | converted inside conversion ih | tree inside ih => exact ih tally
  | @sample builder middle later last id texture output coordinate roughness dimension index supplied
      addressed dimensioned blurred finite registered ih₁ ih₂ =>
      obtain ⟨first, came, recorded⟩ := ih₁ tally
      obtain ⟨second, next, recorded⟩ := ih₂ recorded
      rw [addressed.extends.frames] at next
      rw [addressed.coordinate_type] at dimensioned
      refine ⟨_, .sample came next dimensioned, ?_⟩
      have whole := recorded.register registered
      simpa using whole
  | binary leftDone rightDone unified ih₁ ih₂ =>
      obtain ⟨first, came, recorded⟩ := ih₁ tally
      obtain ⟨second, next, recorded⟩ := ih₂ recorded
      rw [leftDone.extends.frames] at next
      refine ⟨_, .binary came next, ?_⟩
      simpa using recorded
  | mix leftDone rightDone unified factorDone ih₁ ih₂ ih₃ =>
      obtain ⟨first, came, recorded⟩ := ih₁ tally
      obtain ⟨second, next, recorded⟩ := ih₂ recorded
      obtain ⟨third, final, recorded⟩ := ih₃ recorded
      rw [rightDone.extends.frames, leftDone.extends.frames] at final
      rw [leftDone.extends.frames] at next
      refine ⟨_, .mix came next final, ?_⟩
      simpa using recorded

/-- A build that is done declares what its traversal comes past: the distinct numbers and the
distinct textures in the order in which they are come past first. A number has one local however
often it is come past, and two numbers have two locals, be they equal. -/
theorem build_declares_in_order {Host : Type}
    (custom : Empty → NodeId → ValueType → Program Empty Host TypedTerm) (fuel : Nat)
    (root : Node Empty) (output : ValueType) (start last : Machine Empty Host) (fragment : Fragment)
    (identified : (Supply.ofParts start.builder.frames root).Identified)
    (ends : Action.build (generate custom fuel) root output start = (.done fragment, last)) :
    ∃ visits, Visits start.builder.frames (.value (.node root)) visits ∧
      (∀ others, Visits start.builder.frames (.value (.node root)) others → others = visits) ∧
      fragment.locals.map some = (Visit.numbers visits).eraseDups.mapIdx (fun index number =>
        number.2.literal?.map fun text => ⟨number.1, "nf_float_" ++ toString index, .f32, text⟩) ∧
      fragment.textures = (Visit.bindings visits).eraseDups ∧
      fragment.textures.map TextureBinding.name =
        ((Visit.bindings visits).map TextureBinding.name).eraseDups ∧
      (∀ id value, .number id value ∈ visits →
        (fragment.locals.map LocalVariable.owner).count id = 1) ∧
      ∀ id other value, .number id value ∈ visits → .number other value ∈ visits → id ≠ other →
        ∃ first ∈ fragment.locals, ∃ second ∈ fragment.locals, first.owner = id ∧
          second.owner = other ∧ first.initializer = second.initializer ∧
          first.name ≠ second.name := by
  obtain ⟨after, generates, locals, textures, _⟩ := build_derives ends
  obtain ⟨visits, came, tally⟩ := generates.visits identified (.empty _)
  have distinct : (after.locals.map LocalVariable.name).Nodup :=
    (generates.numbered fun _ _ found => by simp [Builder.reset] at found).nodup
  rw [List.nil_append] at tally
  rw [← locals, ← textures]
  refine ⟨visits, came, fun others => came.unique, tally.declared, tally.bound, tally.names, ?_, ?_⟩
  · intro id value visited
    obtain ⟨declared, member, owned, _⟩ := tally.local_mem visited
    apply List.count_eq_one_of_mem
    · rw [tally.owners]
      exact nodup_eraseDups _
    · exact List.mem_map.mpr ⟨declared, member, owned⟩
  · intro id other value visited later different
    obtain ⟨first, firstMember, firstOwned, written⟩ := tally.local_mem visited
    obtain ⟨second, secondMember, secondOwned, again⟩ := tally.local_mem later
    refine ⟨first, firstMember, second, secondMember, firstOwned, secondOwned, ?_, ?_⟩
    · exact Option.some.inj (written.symm.trans again)
    · intro same
      have equal := List.inj_on_of_nodup_map distinct firstMember secondMember same
      rw [equal, secondOwned] at firstOwned
      exact different firstOwned.symm

/-- A number that is both the roughness of a sample and the factor of a mix, beside an equal one. -/
def glowTree : Node Empty :=
  let half := Single.ofWord 0x3f000000
  .context 0 none [("glow", .node (.float 1 half false)), (roughnessKey, .node (.float 1 half false))]
    (.mix 2 (.sample 3 "sky") (.float 4 half false)
      (.reader 5 "glow" (.expression 6 "glow(albedo)" .f32)))

theorem glowTree_parts {value : Value Empty} (part : (Supply.ofParts [] glowTree).has value) :
    let half := Single.ofWord 0x3f000000
    let mixed : Node Empty := .mix 2 (.sample 3 "sky") (.float 4 half false)
      (.reader 5 "glow" (.expression 6 "glow(albedo)" .f32))
    value ∈ [.node glowTree, .node (.float 1 half false), .node mixed, .node (.sample 3 "sky"),
      .node (.float 4 half false), .node (.reader 5 "glow" (.expression 6 "glow(albedo)" .f32)),
      .node (.expression 6 "glow(albedo)" .f32)] := by
  simpa [Supply.ofParts, Frames.partsWith, glowTree, Node.parts, Value.parts, Value.partsAll] using part

/-- Nodes of the glow with one id are one node. -/
theorem glowTree_identified : (Supply.ofParts [] glowTree).Identified := by
  intro left right leftPart rightPart equal
  have leftCases := glowTree_parts leftPart
  have rightCases := glowTree_parts rightPart
  simp only [List.mem_cons, Value.node.injEq, List.not_mem_nil, or_false] at leftCases rightCases
  rcases leftCases with rfl | rfl | rfl | rfl | rfl | rfl | rfl <;>
    rcases rightCases with rfl | rfl | rfl | rfl | rfl | rfl | rfl <;> first | rfl | cases equal

/-- The glow is built. -/
theorem glowTree_builds :
    let start : Machine Empty Unit := ⟨Builder.ofConfig .default, (), []⟩
    ∃ fragment last,
      Action.build (generate nofun 4) glowTree .vec4 start = (.done fragment, last) := by
  intro start
  have done : (match (Action.build (generate nofun 4) glowTree .vec4 start).1 with
      | .done _ => true
      | .aborted _ | .exhausted => false) = true := by decide +kernel
  generalize Action.build (generate nofun 4) glowTree .vec4 start = result at done
  rcases result with ⟨fragment | cause | _, last⟩
  · exact ⟨fragment, last, rfl⟩
  · cases done
  · cases done

/-- The glow declares its locals and textures in the order of its visits. -/
theorem glow_declares_in_order :
    let half := Single.ofWord 0x3f000000
    let visits : List Visit :=
      [.number 1 half, .sample "sky" .plane, .number 4 half, .number 1 half]
    (Supply.ofParts [] glowTree).Identified ∧ Visits [] (.value (.node glowTree)) visits ∧
      ∃ fragment last,
        Action.build (generate nofun 4) glowTree .vec4 ⟨Builder.ofConfig .default, (), []⟩ =
          (.done fragment, last) ∧
        fragment.locals.map some =
          [some ⟨1, "nf_float_0", .f32, "0.5"⟩, some ⟨4, "nf_float_1", .f32, "0.5"⟩] ∧
        fragment.textures = [⟨"sky", .plane⟩] := by
  intro half visits
  have came : Visits [] (.value (.node glowTree)) visits :=
    .context (.mix (.sample (.missing rfl) (.installed rfl .declared) rfl) .declared
      (.override rfl .declared))
  obtain ⟨fragment, last, ends⟩ := glowTree_builds
  obtain ⟨others, _, unique, locals, textures, _⟩ :=
    build_declares_in_order nofun 4 glowTree .vec4 _ last fragment glowTree_identified ends
  rw [← unique visits came] at locals textures
  have numbers : (Visit.numbers visits).eraseDups = [(1, half), (4, half)] := by decide
  have written : (Single.ofWord 0x3f000000).literal? = some "0.5" := rfl
  rw [numbers, List.mapIdx_cons, List.mapIdx_cons, written] at locals
  exact ⟨glowTree_identified, came, fragment, last, ends, locals, textures⟩

end ShadeTree
