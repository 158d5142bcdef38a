import ShadeTree.Compilation
import ShadeTree.Proofs.Json.Records

/-!
Graph descriptions and their documents.

A description is read back from the document that is written from it. Two things are asked of its
nodes: JSON gives their numbers back, and the values of a context are a map.
-/

namespace ShadeTree

open Number

/-! ### Maps -/

/-- An entry behind all others is the last one. -/
theorem KeyMap.insert_append {α : Type} {key : String} (value : α) {map : KeyMap α}
    (before : ∀ entry ∈ map, entry.1 < key) : map.insert key value = map ++ [(key, value)] := by
  induction map with
  | nil => rfl
  | cons entry rest ih =>
      obtain ⟨other, old⟩ := entry
      have less : other < key := before _ (List.mem_cons_self ..)
      have later := ih fun entry member => before entry (List.mem_cons_of_mem _ member)
      simp only [insert]
      rw [if_neg (String.ne_of_lt less).symm, if_neg (String.lt_asymm less), later]
      rfl

namespace NodeDescription

/-! ### Nodes -/

/-- The nodes right below a node. -/
def children : NodeDescription → List NodeDescription
  | .physicalContext _ child => [child]
  | .context values child _ => child :: values.map Prod.snd
  | .contextValue _ fallback => [fallback]
  | .math _ inputs => inputs
  | .expression .. | .float .. | .normal .. | .environmentSample .. => []

/-- What is asked of the data of a single node. -/
def Exact : NodeDescription → Prop
  | .context values _ _ => KeyMap.Ascending values
  | .float value _ => value.Recovered
  | _ => True

/-- A tree whose nodes all have data that a document gives back. -/
inductive Storable : NodeDescription → Prop
  | intro {node : NodeDescription} (exact : node.Exact)
      (children : ∀ child ∈ node.children, Storable child) : Storable node

/-- The fields of a node behind the name of its kind. -/
def fields : NodeDescription → List (String × Json)
  | .physicalContext scope child => [("scope", Json.ofString scope), ("node", child.toJson)]
  | .context values child type =>
    [("values", Json.ofFields (values.map fun entry => (entry.1, entry.2.toJson))),
      ("node", child.toJson), ("valueType", Json.ofOption Json.ofType type)]
  | .expression snippet type =>
    [("snippet", Json.ofString snippet), ("valueType", Json.ofType type)]
  | .float value isConst => [("value", Json.ofSingle value), ("constant", .flag isConst)]
  | .normal space => [("space", Json.ofString space)]
  | .contextValue key fallback => [("key", Json.ofString key), ("fallback", fallback.toJson)]
  | .environmentSample texture => [("texture", Json.ofString texture)]
  | .math operation inputs =>
    [("op", Json.ofString operation), ("inputs", Json.ofList (inputs.map toJson))]

/-- The values of a context are written as an object with their keys. -/
theorem valuesToJson_eq (values : List (String × NodeDescription)) :
    valuesToJson values = .ofList (values.map fun entry => (entry.1, entry.2.toJson)) := by
  induction values with
  | nil => rfl
  | cons entry rest ih =>
      rw [valuesToJson, ih]
      rfl

/-- The operands are written as an array. -/
theorem inputsToJson_eq (inputs : List NodeDescription) :
    inputsToJson inputs = .ofList (inputs.map toJson) := by
  induction inputs with
  | nil => rfl
  | cons input rest ih =>
      rw [inputsToJson, ih]
      rfl

/-- A node is written with its kind in front of its fields. -/
theorem toJson_eq (node : NodeDescription) :
    node.toJson = Json.ofFields (("type", Json.ofString node.kind.name) :: node.fields) := by
  cases node <;> simp only [toJson, valuesToJson_eq, inputsToJson_eq] <;> rfl

/-! ### Reading a node -/

variable {readChild : Json → Reading NodeDescription}

/-- By induction on the values; `read` are those in front. -/
theorem readValues_append {read values : KeyMap NodeDescription}
    (ascending : KeyMap.Ascending (read ++ values))
    (children : ∀ entry ∈ values, readChild entry.2.toJson = .ok entry.2) :
    (values.map fun entry => (entry.1, entry.2.toJson)).foldlM
      (fun values field => do return values.insert field.1 (← readChild field.2)) read =
    (.ok (read ++ values) : Reading (KeyMap NodeDescription)) := by
  induction values generalizing read with
  | nil => simp
  | cons entry rest ih =>
      obtain ⟨key, value⟩ := entry
      have head : readChild value.toJson = .ok value := children _ (List.mem_cons_self ..)
      have before : ∀ entry ∈ read, entry.1 < key := by
        intro entry member
        have pairs := List.pairwise_append.mp (List.pairwise_map.mp ascending)
        exact pairs.2.2 entry member _ (List.mem_cons_self ..)
      have moved : read ++ (key, value) :: rest = (read ++ [(key, value)]) ++ rest := by simp
      rw [List.map_cons, List.foldlM_cons]
      dsimp only
      rw [head]
      change List.foldlM _ (read.insert key value) _ = _
      rw [KeyMap.insert_append value before, moved]
      rw [moved] at ascending
      exact ih ascending fun entry member => children entry (List.mem_cons_of_mem _ member)

/-- A map is read back from its object. -/
theorem readValues_ofFields {values : KeyMap NodeDescription}
    (ascending : KeyMap.Ascending values)
    (children : ∀ entry ∈ values, readChild entry.2.toJson = .ok entry.2) :
    NodeFields.readValues readChild
      (Json.ofFields (values.map fun entry => (entry.1, entry.2.toJson))) = .ok values := by
  change (Members.ofList _).foldFields _ [] = _
  rw [Members.foldFields_ofList]
  rw [← List.nil_append values] at ascending
  exact readValues_append ascending children

/-- The kind is no field of its own. -/
theorem take_kind (kind : NodeKind) (fields : NodeFields) (value : Json) :
    fields.take readChild kind "type" value = .ok fields := by
  cases kind <;> rfl

/-- The fields of a node, once they are taken, describe the node. -/
theorem describe_fields {node : NodeDescription} (exact : node.Exact)
    (children : ∀ child ∈ node.children, readChild child.toJson = .ok child)
    (absent : Nat → String → ReadError) :
    (node.fields.foldlM (fun (fields : NodeFields) field =>
        fields.take readChild node.kind field.1 field.2) {} >>= fun fields =>
      fields.describe absent node.kind) = .ok node := by
  cases node with
  | physicalContext text child | contextValue text child =>
      have read := children child (List.mem_cons_self ..)
      simp [fields, kind, NodeFields.take, NodeFields.describe, read]
  | context values child type =>
      have read : readChild child.toJson = .ok child := children child (List.mem_cons_self ..)
      have inner := readValues_ofFields exact fun entry member =>
        children entry.2 (List.mem_cons_of_mem _ (List.mem_map_of_mem member))
      have typed := Json.readNullable_ofOption Json.readType_ofType Json.ofType_ne_null type
      simp [fields, kind, NodeFields.take, NodeFields.describe, read, inner, typed]
  | float value isConst =>
      have read := Json.readSingle_ofSingle exact
      simp [fields, kind, NodeFields.take, NodeFields.describe, Json.readFlag, read]
  | math operation inputs =>
      have read : NodeFields.readInputs readChild (Json.ofList (inputs.map toJson)) = .ok inputs :=
        Items.mapItems_ofList children
      simp [fields, kind, NodeFields.take, NodeFields.describe, read]
  | expression | normal | environmentSample =>
      simp [fields, kind, NodeFields.take, NodeFields.describe, Except.map]

/-- No field of a node has the key of the kind. -/
theorem fields_key {node : NodeDescription} {field : String × Json}
    (member : field ∈ node.fields) : field.1 ≠ "type" := by
  cases node <;> simp only [fields, List.mem_cons, List.not_mem_nil, or_false] at member <;> grind

/-- Once the kind is found, the other fields are only visited. -/
theorem findKind_fields {readKind : Json → Reading NodeKind} {visit : Json → Reading Unit}
    {fields : List (String × Json)} (found : Option NodeKind)
    (others : ∀ field ∈ fields, field.1 ≠ "type" ∧ visit field.2 = .ok ()) :
    fields.foldlM (fun found field => findKind readKind visit found field.1 field.2) found =
      .ok found := by
  induction fields with
  | nil => rfl
  | cons field fields ih =>
      obtain ⟨other, visited⟩ := others field (List.mem_cons_self ..)
      have passed := ih fun field member => others field (List.mem_cons_of_mem _ member)
      rw [List.foldlM_cons, findKind, if_neg other, visited]
      exact passed

/-- A node is read from its object, if its children are read and its fields are visited. -/
theorem ofMembers_fields {node : NodeDescription} (exact : node.Exact)
    (children : ∀ child ∈ node.children, readChild child.toJson = .ok child)
    {readKind : Json → Reading NodeKind}
    (named : readKind (Json.ofString node.kind.name) = .ok node.kind)
    {visit : Json → Reading Unit} (visits : ∀ field ∈ node.fields, visit field.2 = .ok ()) :
    ofMembers readChild readKind visit
      (.ofList (("type", Json.ofString node.kind.name) :: node.fields)) = .ok node := by
  have first : findKind readKind visit none "type" (Json.ofString node.kind.name) =
      .ok (some node.kind) := by
    simp [findKind, named]
  have kept : node.fields.foldlM
      (fun found field => findKind readKind visit found field.1 field.2) (some node.kind) =
        .ok (some node.kind) :=
    findKind_fields (some node.kind) fun field member =>
      ⟨fields_key member, visits field member⟩
  unfold ofMembers
  simp only [Members.foldFields_ofList, List.foldlM_cons, first, kept, take_kind, Reading.ok_bind,
    requireField_some]
  exact describe_fields exact children _

/-- A kind is read back from its name. -/
theorem readKind_name (kind : NodeKind) : NodeKind.read (Json.ofString kind.name) = .ok kind := by
  cases kind <;> decide

/-- A kind inside a node is read back from its name. -/
theorem readInner_name (kind : NodeKind) :
    NodeKind.readInner (Json.ofString kind.name) = .ok kind :=
  readKind_name kind

/-! ### Trees -/

/-- A node is deeper than its fields. -/
theorem fields_depth {node : NodeDescription} {room : Nat} (fits : node.toJson.depth ≤ room + 1)
    {field : String × Json} (member : field ∈ node.fields) : field.2.depth ≤ room := by
  rw [toJson_eq] at fits
  exact Json.ofFields_depth.mp fits field (List.mem_cons_of_mem _ member)

/-- Each child stands in a field. -/
theorem children_depth {node child : NodeDescription} (member : child ∈ node.children) {room : Nat}
    (fits : ∀ field ∈ node.fields, field.2.depth ≤ room) : child.toJson.depth ≤ room := by
  cases node with
  | physicalContext text inner | contextValue text inner =>
      rw [List.mem_singleton.mp member]
      exact fits _ (List.mem_cons_of_mem _ (List.mem_cons_self ..))
  | context values inner type =>
      rcases List.mem_cons.mp member with rfl | value
      · exact fits ("node", _) (by simp [fields])
      · obtain ⟨entry, present, rfl⟩ := List.mem_map.mp value
        have deep := fits ("values", _) (List.mem_cons_self ..)
        exact Json.ofFields_depth.mp (Nat.le_succ_of_le deep) (entry.1, _)
          (List.mem_map_of_mem present)
  | math operation inputs =>
      have deep := fits ("inputs", Json.ofList (inputs.map toJson)) (by simp [fields])
      exact Json.ofList_depth.mp (Nat.le_succ_of_le deep) _ (List.mem_map_of_mem member)
  | expression | float | normal | environmentSample => cases member

/-- The fields of a node can be written if its children can. -/
theorem fields_valid {node : NodeDescription} (exact : node.Exact)
    (children : ∀ child ∈ node.children, child.toJson.Valid) {field : String × Json}
    (member : field ∈ node.fields) : field.2.Valid := by
  revert field
  cases node with
  | physicalContext text child | contextValue text child =>
      have valid := children child (List.mem_cons_self ..)
      simp [fields, valid]
  | context values child type =>
      have valid := children child (List.mem_cons_self ..)
      have inner : (Json.ofFields (values.map fun entry => (entry.1, entry.2.toJson))).Valid := by
        apply Json.ofFields_valid.mpr
        intro field present
        obtain ⟨entry, value, rfl⟩ := List.mem_map.mp present
        exact children entry.2 (List.mem_cons_of_mem _ (List.mem_map_of_mem value))
      have typed := Json.ofOption_valid Json.ofType_valid type
      simp [fields, valid, inner, typed]
  | float value isConst => simp [fields, Json.ofSingle_valid exact, Json.Valid]
  | math operation inputs =>
      have items : (Json.ofList (inputs.map toJson)).Valid := by
        apply Json.ofList_valid.mpr
        intro value present
        obtain ⟨input, among, rfl⟩ := List.mem_map.mp present
        exact children input among
      simp [fields, items]
  | expression | normal | environmentSample => simp [fields]

/-- A storable tree can be written and scanned. -/
theorem Storable.toJson_valid {node : NodeDescription} (storable : node.Storable) :
    node.toJson.Valid := by
  induction storable with
  | @intro node exact _ ih =>
      rw [toJson_eq]
      apply Json.ofFields_valid.mpr
      rintro field (_ | ⟨_, member⟩)
      · rfl
      · exact fields_valid exact ih member

/-- A tree is read as deep as its document goes. -/
theorem Storable.readInner_toJson {node : NodeDescription} (storable : node.Storable) {depth : Nat}
    (fits : node.toJson.depth ≤ depth) : readInner depth node.toJson = .ok node := by
  induction storable generalizing depth with
  | @intro node exact _ ih =>
      cases depth with
      | zero =>
          rw [toJson_eq] at fits
          exact absurd fits (Nat.not_succ_le_zero _)
      | succ depth =>
          have children : ∀ child ∈ node.children, readInner depth child.toJson = .ok child :=
            fun child member => ih child member (children_depth member fun _ => fields_depth fits)
          rw [toJson_eq]
          exact ofMembers_fields exact children (readInner_name node.kind) fun _ _ => rfl

/-- The root of a document is also checked as a whole. -/
theorem Storable.readRoot_toJson {node : NodeDescription} (storable : node.Storable)
    (fits : node.toJson.depth ≤ rootRoom + 1) : readRoot node.toJson = .ok node := by
  obtain ⟨exact, stored⟩ := storable
  have shallow : ∀ field ∈ node.fields, field.2.depth ≤ rootRoom := fun _ => fields_depth fits
  have children : ∀ child ∈ node.children,
      readInner Json.depthLimit child.toJson = .ok child := by
    intro child member
    have fits : child.toJson.depth ≤ rootRoom := children_depth member shallow
    exact (stored child member).readInner_toJson (Nat.le_trans fits (by decide))
  rw [toJson_eq]
  apply ofMembers_fields exact children (readKind_name node.kind)
  intro field member
  have valid : field.2.Valid :=
    fields_valid exact (fun child present => (stored child present).toJson_valid) member
  exact Json.check_valid valid (shallow field member)

end NodeDescription

/-! ### Documents -/

/-- Metadata are read back from their record. -/
theorem Metadata.read_toJson (metadata : Metadata) : read metadata.toJson = .ok metadata := by
  have created := Json.readNullable_ofOption Json.readText_ofString Json.ofString_ne_null
    metadata.created
  have modified := Json.readNullable_ofOption Json.readText_ofString Json.ofString_ne_null
    metadata.modified
  simp [read, toJson, Json.ofFields, Members.foldFields_ofList, Fields.take, created, modified]

/-- Metadata can be written and scanned. -/
theorem Metadata.toJson_valid (metadata : Metadata) : metadata.toJson.Valid := by
  have texts := Json.ofOption_valid Json.ofString_valid
  apply Json.ofFields_valid.mpr
  simp [texts]

namespace GraphDescription

/-- A graph can be written and scanned if its root is storable. -/
theorem toJson_valid {graph : GraphDescription} (storable : graph.root.Storable) :
    graph.toJson.Valid := by
  apply Json.ofFields_valid.mpr
  simp [Metadata.toJson_valid, storable.toJson_valid]

/-- A graph with a storable root is read back from its record. -/
theorem read_toJson {graph : GraphDescription} (storable : graph.root.Storable)
    (fits : graph.toJson.depth ≤ Json.depthLimit) : read graph.toJson = .ok graph := by
  have shallow : graph.root.toJson.depth ≤ NodeDescription.rootRoom + 1 := by
    have within : graph.toJson.depth ≤ NodeDescription.rootRoom + 1 + 1 := fits
    exact Json.ofFields_depth.mp within ("root", _) (by simp)
  have root := storable.readRoot_toJson shallow
  simp [read, toJson, Json.ofFields, Members.foldFields_ofList, Fields.take,
    Metadata.read_toJson, root]

/-- A description is parsed from its document as it was. -/
theorem parse_toText {graph : GraphDescription} (storable : graph.root.Storable)
    (fits : graph.toJson.depth ≤ Json.depthLimit) : parse graph.toText = .ok graph := by
  unfold parse ofText toText
  rw [Json.readDocument_text (toJson_valid storable), read_toJson storable fits]
  rfl

end GraphDescription

end ShadeTree
