import ShadeTree.Description.Basic
import ShadeTree.Json.Render
import ShadeTree.Number.Style

/-!
Writing graph descriptions. Every field is written, in the order of its declaration and after the
kind of the node.
-/

namespace ShadeTree

open Number

/-- JSON has no numeral for infinity. -/
def Json.ofSingle (number : Single) : Json :=
  if number.isFinite then .number (number.numeral .literal) else .null

def Json.ofType (type : ValueType) : Json :=
  Json.ofString type.wgsl

namespace NodeDescription

def kind : NodeDescription → NodeKind
  | .physicalContext .. => .physicalContext
  | .context .. => .context
  | .expression .. => .expression
  | .float .. => .float
  | .normal .. => .normal
  | .contextValue .. => .contextValue
  | .environmentSample .. => .environmentSample
  | .math .. => .math

def ofNode (kind : NodeKind) (fields : List (String × Json)) : Json :=
  Json.ofFields (("type", Json.ofString kind.name) :: fields)

mutual

def toJson : NodeDescription → Json
  | .physicalContext scope child =>
    ofNode .physicalContext [("scope", Json.ofString scope), ("node", child.toJson)]
  | .context values child type =>
    ofNode .context [("values", .object (valuesToJson values)), ("node", child.toJson),
      ("valueType", Json.ofOption Json.ofType type)]
  | .expression snippet type =>
    ofNode .expression [("snippet", Json.ofString snippet), ("valueType", Json.ofType type)]
  | .float value isConst =>
    ofNode .float [("value", Json.ofSingle value), ("constant", .flag isConst)]
  | .normal space => ofNode .normal [("space", Json.ofString space)]
  | .contextValue key fallback =>
    ofNode .contextValue [("key", Json.ofString key), ("fallback", fallback.toJson)]
  | .environmentSample texture =>
    ofNode .environmentSample [("texture", Json.ofString texture)]
  | .math operation inputs =>
    ofNode .math [("op", Json.ofString operation), ("inputs", .array (inputsToJson inputs))]

def valuesToJson : List (String × NodeDescription) → Members
  | [] => .close
  | (key, value) :: rest => .member (some key) value.toJson (valuesToJson rest)

def inputsToJson : List NodeDescription → Items
  | [] => .close
  | input :: rest => .item input.toJson (inputsToJson rest)

end

end NodeDescription

def Metadata.toJson (metadata : Metadata) : Json :=
  Json.ofFields [("name", Json.ofString metadata.name),
    ("created", Json.ofOption Json.ofString metadata.created),
    ("modified", Json.ofOption Json.ofString metadata.modified)]

def GraphDescription.toJson (graph : GraphDescription) : Json :=
  Json.ofFields [("version", Json.ofString graph.version), ("metadata", graph.metadata.toJson),
    ("output", Json.ofType graph.output), ("root", graph.root.toJson)]

def GraphDescription.toText (graph : GraphDescription) : String :=
  graph.toJson.text

end ShadeTree
