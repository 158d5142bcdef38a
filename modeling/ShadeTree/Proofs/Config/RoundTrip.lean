import ShadeTree.Compilation
import ShadeTree.Config.Writer
import ShadeTree.Proofs.Description.RoundTrip

/-!
Configurations and their documents.

A configuration is read back from the document that is written from it, and accepted again if it
was accepted before.
-/

namespace ShadeTree

open Number

/-- A parameter is read back from its own record. -/
theorem Param.read_toJson (param : Param) : read param.toJson = .ok param := by
  simp [read, toJson, Json.ofFields, Members.foldFields_ofList, Fields.take]

theorem Param.toJson_valid (param : Param) : param.toJson.Valid := by
  apply Json.ofFields_valid.mpr
  simp

/-- The list of parameters is read back in its order. -/
theorem Param.readAll_toJson (params : List Param) :
    readAll (Json.ofList (params.map toJson)) = .ok params :=
  Items.mapItems_ofList fun param _ => param.read_toJson

namespace Config

variable {config : Config}

/-- A configuration is read back from its own record. -/
theorem read_toJson (recovered : config.envMaxMip.Recovered) : read config.toJson = .ok config := by
  have mip := Json.readSingle_ofSingle recovered
  simp [read, toJson, namedFields, Json.ofFields, Members.foldFields_ofList, Fields.take,
    Fields.config, Param.readAll_toJson, mip]

/-- The record of a configuration can be written and scanned. -/
theorem toJson_valid (recovered : config.envMaxMip.Recovered) : config.toJson.Valid := by
  have mip := Json.ofSingle_valid recovered
  have params : (Json.ofList (config.params.map Param.toJson)).Valid := by
    apply Json.ofList_valid.mpr
    intro value member
    obtain ⟨param, _, rfl⟩ := List.mem_map.mp member
    exact param.toJson_valid
  apply Json.ofFields_valid.mpr
  simp [namedFields, params, mip]

/-- An accepted configuration is recovered from its text. -/
theorem parse_toText (accepted : config.validate = .ok ())
    (recovered : config.envMaxMip.Recovered) : parse config.toText = .ok config := by
  unfold parse ofText toText
  rw [Json.readDocument_text (toJson_valid recovered), read_toJson recovered]
  change (config.validate.mapError ConfigDocumentError.invalid).bind _ = _
  rw [accepted]
  rfl

end Config

/-! ### Saving and loading -/

/-- Both documents that a compilation reads are recovered from their texts. A description asks that
its values are maps, that JSON gives its numbers back, and that it is not nested too deep. -/
theorem documents_recovered :
    (∀ graph : GraphDescription, graph.root.Storable → graph.toJson.depth ≤ Json.depthLimit →
      GraphDescription.parse graph.toText = .ok graph) ∧
    (∀ config : Config, config.validate = .ok () → config.envMaxMip.Recovered →
      Config.parse config.toText = .ok config) :=
  ⟨fun _ => GraphDescription.parse_toText, fun _ => Config.parse_toText⟩

/-- A description with every kind of node, and with quotes, breaks and letters that are no words. -/
def duskGraph : GraphDescription where
  version := "1.0"
  metadata := ⟨"dusk \"über\" \\ sea\n\x01", some "2024-02-29", none⟩
  output := .vec3
  root :=
    .context
      [("", .float (Single.ofWord 0x3dcccccd) true), ("tint\t✶", .normal "view")]
      (.math "mul"
        [.contextValue "tint\t✶" (.float (Single.ofWord 0x80000000) false),
          .physicalContext "irradiance" (.environmentSample "sky"),
          .expression "vec3f(1.0)" .vec3])
      none

/-- The graph holds a map in order and finite numbers only. -/
theorem duskGraph_storable : duskGraph.root.Storable := by
  have tenth : (Single.ofWord 0x3dcccccd).Recovered := by decide +kernel
  have zero : (Single.ofWord 0x80000000).Recovered := by decide +kernel
  have ascending : KeyMap.Ascending [("", NodeDescription.float (Single.ofWord 0x3dcccccd) true),
      ("tint\t✶", .normal "view")] := by
    unfold KeyMap.Ascending
    decide
  refine ⟨ascending, ?_⟩
  simp only [duskGraph, NodeDescription.children, List.map_cons, List.map_nil,
    List.forall_mem_cons, List.not_mem_nil, false_implies, implies_true, and_true]
  refine ⟨.intro trivial ?_, .intro tenth nofun, .intro trivial nofun⟩
  simp only [NodeDescription.children, List.forall_mem_cons, List.not_mem_nil, false_implies,
    implies_true, and_true]
  refine ⟨.intro trivial ?_, .intro trivial ?_, .intro trivial nofun⟩
  · exact List.forall_mem_singleton.mpr (.intro zero nofun)
  · exact List.forall_mem_singleton.mpr (.intro trivial nofun)

/-- The graph and the default configuration come back from their texts. -/
theorem duskGraph_recovered :
    duskGraph.root.Storable ∧ duskGraph.toJson.depth ≤ Json.depthLimit ∧
      Config.default.validate = .ok () ∧ Config.default.envMaxMip.Recovered ∧
      GraphDescription.parse duskGraph.toText = .ok duskGraph ∧
      Config.parse Config.default.toText = .ok Config.default := by
  have shallow : duskGraph.toJson.depth ≤ Json.depthLimit := by decide
  have accepted : Config.default.validate = .ok () := rfl
  have recovered : Config.default.envMaxMip.Recovered := by decide +kernel
  exact ⟨duskGraph_storable, shallow, accepted, recovered,
    documents_recovered.1 duskGraph duskGraph_storable shallow,
    documents_recovered.2 Config.default accepted recovered⟩

end ShadeTree
