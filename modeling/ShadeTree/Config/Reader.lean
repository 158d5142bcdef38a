import ShadeTree.Config.Basic
import ShadeTree.Description.Reader

/-!
Reading configurations. A field that is not there keeps its default.
-/

namespace ShadeTree

open Number

namespace Param

structure Fields where
  name : Option String := none
  type : Option ValueType := none

def Fields.take (fields : Fields) (key : String) (value : Json) : Reading Fields :=
  match key with
  | "name" => takeField fields.name key value.readText fun name => { fields with name }
  | "type" => takeField fields.type key value.readType fun type => { fields with type }
  | _ => value.skip.map fun _ => fields

def read (json : Json) : Reading Param :=
  match json with
  | .object members => do
    let fields ← members.foldFields Fields.take {}
    let name ← requireField fields.name "name"
    return ⟨name, ← requireField fields.type "type"⟩
  | .array items => do
    let expected := "struct RuntimeParam with 2 elements"
    let (name, items) ← items.next Json.readText
    let name ← requireItem name 0 expected
    let (type, items) ← items.next Json.readType
    let type ← requireItem type 1 expected
    items.finish
    return ⟨name, type⟩
  | _ => json.mistyped "struct RuntimeParam"

def readAll (json : Json) : Reading (List Param) :=
  match json with
  | .array items => items.mapItems read
  | _ => json.mistyped "a sequence"

end Param

namespace Config

structure Fields where
  functionName : Option String := none
  inputStruct : Option String := none
  inputName : Option String := none
  uvField : Option String := none
  normalField : Option String := none
  viewNormalField : Option String := none
  viewMatrix : Option String := none
  params : Option (List Param) := none
  envMaxMip : Option Single := none

namespace Fields

def take (fields : Fields) (key : String) (value : Json) : Reading Fields :=
  match key with
  | "functionName" =>
    takeField fields.functionName key value.readText fun field =>
      { fields with functionName := field }
  | "inputStruct" =>
    takeField fields.inputStruct key value.readText fun field =>
      { fields with inputStruct := field }
  | "inputName" =>
    takeField fields.inputName key value.readText fun field => { fields with inputName := field }
  | "uvField" =>
    takeField fields.uvField key value.readText fun field => { fields with uvField := field }
  | "normalField" =>
    takeField fields.normalField key value.readText fun field =>
      { fields with normalField := field }
  | "viewNormalField" =>
    takeField fields.viewNormalField key value.readText fun field =>
      { fields with viewNormalField := field }
  | "viewMatrix" =>
    takeField fields.viewMatrix key value.readText fun field =>
      { fields with viewMatrix := field }
  | "params" =>
    takeField fields.params key (Param.readAll value) fun field => { fields with params := field }
  | "envMaxMip" =>
    takeField fields.envMaxMip key value.readSingle fun field => { fields with envMaxMip := field }
  | _ => value.skip.map fun _ => fields

def config (fields : Fields) : Config where
  functionName := fields.functionName.getD default.functionName
  inputStruct := fields.inputStruct.getD default.inputStruct
  inputName := fields.inputName.getD default.inputName
  uvField := fields.uvField.getD default.uvField
  normalField := fields.normalField.getD default.normalField
  viewNormalField := fields.viewNormalField.getD default.viewNormalField
  viewMatrix := fields.viewMatrix.getD default.viewMatrix
  params := fields.params.getD default.params
  envMaxMip := fields.envMaxMip.getD default.envMaxMip

end Fields

def read (json : Json) : Reading Config :=
  match json with
  | .object members => return (← members.foldFields Fields.take {}).config
  | .array items => do
    let (functionName, items) ← items.next Json.readText
    let (inputStruct, items) ← items.next Json.readText
    let (inputName, items) ← items.next Json.readText
    let (uvField, items) ← items.next Json.readText
    let (normalField, items) ← items.next Json.readText
    let (viewNormalField, items) ← items.next Json.readText
    let (viewMatrix, items) ← items.next Json.readText
    let (params, items) ← items.next Param.readAll
    let (envMaxMip, items) ← items.next Json.readSingle
    items.finish
    return Fields.config
      ⟨functionName, inputStruct, inputName, uvField, normalField, viewNormalField, viewMatrix,
        params, envMaxMip⟩
  | _ => json.mistyped "struct BuilderConfig"

def ofText (source : String) : Reading Config :=
  Json.readDocument read source

end Config

end ShadeTree
