import ShadeTree.Config.Basic
import ShadeTree.Description.Writer

/-!
Writing configurations, with every field in the order of its declaration.
-/

namespace ShadeTree

def Param.toJson (param : Param) : Json :=
  Json.ofFields [("name", Json.ofString param.name), ("type", Json.ofType param.type)]

def Config.toJson (config : Config) : Json :=
  Json.ofFields
    (config.namedFields.map (fun (field, name) => (field, Json.ofString name)) ++
      [("params", Json.ofList (config.params.map Param.toJson)),
        ("envMaxMip", Json.ofSingle config.envMaxMip)])

def Config.toText (config : Config) : String :=
  config.toJson.text

end ShadeTree
