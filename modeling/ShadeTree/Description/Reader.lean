import ShadeTree.Description.Basic
import ShadeTree.Json.Read

/-!
Reading graph descriptions.

A node is an object with the name of its kind in the field `type`, or an array that starts with
that name. The node at the root is taken in as a whole before its fields are looked at, but its
kind is understood where it stands.
-/

namespace ShadeTree

open Number

def Json.readType (json : Json) : Reading ValueType := do
  let spelling ← json.readText
  match ValueType.ofSpelling? spelling with
  | some type => return type
  | none => .error (.unknownType (Text.fold spelling))

def elementCount (count : Nat) : String :=
  if count = 1 then "1 element" else toString count ++ " elements"

namespace NodeKind

def read (json : Json) : Reading NodeKind := do
  let name ← json.readString "variant identifier"
  match ofName? name with
  | some kind => return kind
  | none => .error (.unknownVariant name (all.map NodeKind.name))

/-- Below the root a kind may also be given by its number. -/
def readInner (json : Json) : Reading NodeKind :=
  match json with
  | .number numeral =>
    match numeral.quantity? with
    | some (.natural index) =>
      match all[index]? with
      | some kind => .ok kind
      | none => .error (.wrongIndex index all.length)
    | _ => json.mistyped "variant identifier"
  | _ => read json

end NodeKind

/-- The fields of a node as far as they are known. No kind has two fields of one sort. -/
structure NodeFields where
  text : Option String := none
  child : Option NodeDescription := none
  values : Option (KeyMap NodeDescription) := none
  type : Option (Option ValueType) := none
  number : Option Single := none
  flag : Option Bool := none
  inputs : Option (List NodeDescription) := none

namespace NodeFields

/-- Of values with the same key the last one counts. -/
def readValues (readChild : Json → Reading NodeDescription) (json : Json) :
    Reading (KeyMap NodeDescription) :=
  match json with
  | .object members =>
    members.foldFields (fun values key value => return values.insert key (← readChild value)) []
  | _ => json.mistyped "a map"

def readInputs (readChild : Json → Reading NodeDescription) (json : Json) :
    Reading (List NodeDescription) :=
  match json with
  | .array items => items.mapItems readChild
  | _ => json.mistyped "a sequence"

/-- Fields that the kind does not have are ignored. -/
def take (readChild : Json → Reading NodeDescription) (kind : NodeKind) (fields : NodeFields)
    (key : String) (value : Json) : Reading NodeFields :=
  let text := takeField fields.text key value.readText fun text => { fields with text }
  let child := takeField fields.child key (readChild value) fun child => { fields with child }
  match kind, key with
  | .physicalContext, "scope" => text
  | .physicalContext, "node" => child
  | .context, "values" =>
    takeField fields.values key (readValues readChild value) fun values => { fields with values }
  | .context, "node" => child
  | .context, "valueType" =>
    takeField fields.type key (value.readNullable Json.readType) fun type => { fields with type }
  | .expression, "snippet" => text
  | .expression, "valueType" =>
    takeField fields.type key (value.readType.map some) fun type => { fields with type }
  | .float, "value" =>
    takeField fields.number key value.readSingle fun number => { fields with number }
  | .float, "constant" => takeField fields.flag key value.readFlag fun flag => { fields with flag }
  | .normal, "space" => text
  | .contextValue, "key" => text
  | .contextValue, "fallback" => child
  | .environmentSample, "texture" => text
  | .math, "op" => text
  | .math, "inputs" =>
    takeField fields.inputs key (readInputs readChild value) fun inputs => { fields with inputs }
  | _, _ => .ok fields

/-- The argument `absent` is the error for a required field that is not there, given its position
and its name. -/
def describe (absent : Nat → String → ReadError) (kind : NodeKind) (fields : NodeFields) :
    Reading NodeDescription :=
  let require {α : Type} (field : Option α) (position : Nat) (name : String) : Reading α :=
    match field with
    | some value => .ok value
    | none => .error (absent position name)
  match kind with
  | .physicalContext => do
    let scope ← require fields.text 0 "scope"
    return .physicalContext scope (← require fields.child 1 "node")
  | .context => do
    let child ← require fields.child 1 "node"
    return .context (fields.values.getD []) child fields.type.join
  | .expression => do
    let snippet ← require fields.text 0 "snippet"
    return .expression snippet (← require fields.type.join 1 "valueType")
  | .float => do
    return .float (← require fields.number 0 "value") (fields.flag.getD false)
  | .normal => return .normal (fields.text.getD NodeDescription.defaultSpace)
  | .contextValue => do
    let key ← require fields.text 0 "key"
    return .contextValue key (← require fields.child 1 "fallback")
  | .environmentSample => return .environmentSample (← require fields.text 0 "texture")
  | .math => do
    let operation ← require fields.text 0 "op"
    return .math operation (← require fields.inputs 1 "inputs")

end NodeFields

namespace NodeDescription

/-- The object of a node is gone through once for its kind; `visit` looks at the other fields. -/
def findKind (readKind : Json → Reading NodeKind) (visit : Json → Reading Unit)
    (found : Option NodeKind) (key : String) (value : Json) : Reading (Option NodeKind) :=
  if key = "type" then takeField found key (readKind value) id
  else (visit value).map fun _ => found

def ofMembers (readChild : Json → Reading NodeDescription) (readKind : Json → Reading NodeKind)
    (visit : Json → Reading Unit) (members : Members) : Reading NodeDescription := do
  let kind ← requireField (← members.foldFields (findKind readKind visit) none) "type"
  let fields ← members.foldFields (NodeFields.take readChild kind) {}
  fields.describe (fun _ name => .missingField name) kind

/-- The items of a node are its fields in their order; fields at the end may be left out if they
have a default. -/
def ofItems (readChild : Json → Reading NodeDescription) (kind : NodeKind) (items : List Json) :
    Reading NodeDescription := do
  let names := kind.fieldNames
  let step (fields : NodeFields) (field : String × Json) :=
    fields.take readChild kind field.1 field.2
  let fields ← (names.zip items).foldlM step {}
  let expected :=
    "struct variant NodeSpec::" ++ kind.name ++ " with " ++ elementCount names.length
  let description ← fields.describe (fun position _ => .wrongLength position expected) kind
  if names.length < items.length then
    .error (.wrongLength items.length (elementCount names.length ++ " in sequence"))
  else return description

def expected : String := "internally tagged enum NodeSpec"

/-- A node below the root, in a value that has been checked as a whole. Each node lies in an array
or object, so the depth limit bounds how many lie in each other. -/
def readInner : (depth : Nat) → Json → Reading NodeDescription
  | 0, _ => Fault.malformed.throw
  | depth + 1, .object members =>
    ofMembers (readInner depth) NodeKind.readInner (fun _ => .ok ()) members
  | _ + 1, .array .close => .error (.missingField "type")
  | depth + 1, .array (.item kind rest) => do
    ofItems (readInner depth) (← NodeKind.readInner kind) rest.toList
  | _ + 1, json => json.mistyped expected

/-- The root lies two levels deep in its document. -/
def rootRoom : Nat := Json.depthLimit - 2

def readRoot (json : Json) : Reading NodeDescription :=
  match json with
  | .object members =>
    ofMembers (readInner Json.depthLimit) NodeKind.read (Json.check rootRoom) members
  | .array items => do
    let (kind, rest) ← items.next NodeKind.read
    let kind ← requireField kind "type"
    Json.checkItems rootRoom rest
    ofItems (readInner Json.depthLimit) kind rest.toList
  | _ => json.mistyped expected

/-- A document may also hold a single tree of nodes. -/
def ofText (source : String) : Reading NodeDescription :=
  Json.readDocument readRoot source

end NodeDescription

namespace Metadata

structure Fields where
  name : Option String := none
  created : Option (Option String) := none
  modified : Option (Option String) := none

def Fields.take (fields : Fields) (key : String) (value : Json) : Reading Fields :=
  match key with
  | "name" => takeField fields.name key value.readText fun name => { fields with name }
  | "created" =>
    takeField fields.created key (value.readNullable Json.readText)
      fun created => { fields with created }
  | "modified" =>
    takeField fields.modified key (value.readNullable Json.readText)
      fun modified => { fields with modified }
  | _ => value.skip.map fun _ => fields

def read (json : Json) : Reading Metadata :=
  match json with
  | .object members => do
    let fields ← members.foldFields Fields.take {}
    let name ← requireField fields.name "name"
    return ⟨name, fields.created.join, fields.modified.join⟩
  | .array items => do
    let expected := "struct Metadata with 3 elements"
    let (name, items) ← items.next Json.readText
    let name ← requireItem name 0 expected
    let (created, items) ← items.next (Json.readNullable Json.readText)
    let created ← requireItem created 1 expected
    let (modified, items) ← items.next (Json.readNullable Json.readText)
    let modified ← requireItem modified 2 expected
    items.finish
    return ⟨name, created, modified⟩
  | _ => json.mistyped "struct Metadata"

end Metadata

namespace GraphDescription

structure Fields where
  version : Option String := none
  metadata : Option Metadata := none
  output : Option ValueType := none
  root : Option NodeDescription := none

def Fields.take (fields : Fields) (key : String) (value : Json) : Reading Fields :=
  match key with
  | "version" =>
    takeField fields.version key value.readText fun version => { fields with version }
  | "metadata" =>
    takeField fields.metadata key (Metadata.read value) fun metadata => { fields with metadata }
  | "output" => takeField fields.output key value.readType fun output => { fields with output }
  | "root" =>
    takeField fields.root key (NodeDescription.readRoot value) fun root => { fields with root }
  | _ => value.skip.map fun _ => fields

def read (json : Json) : Reading GraphDescription :=
  match json with
  | .object members => do
    let fields ← members.foldFields Fields.take {}
    let version ← requireField fields.version "version"
    let metadata ← requireField fields.metadata "metadata"
    let root ← requireField fields.root "root"
    return ⟨version, metadata, fields.output.getD defaultOutput, root⟩
  | .array items => do
    let expected := "struct GraphDSL with 4 elements"
    let (version, items) ← items.next Json.readText
    let version ← requireItem version 0 expected
    let (metadata, items) ← items.next Metadata.read
    let metadata ← requireItem metadata 1 expected
    let (output, items) ← items.next Json.readType
    let (root, items) ← items.next NodeDescription.readRoot
    let root ← requireItem root 3 expected
    items.finish
    return ⟨version, metadata, output.getD defaultOutput, root⟩
  | _ => json.mistyped "struct GraphDSL"

def ofText (source : String) : Reading GraphDescription :=
  Json.readDocument read source

end GraphDescription

end ShadeTree
