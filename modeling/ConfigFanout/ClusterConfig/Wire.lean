import ConfigFanout.ClusterConfig
import ConfigFanout.Metadata.Wire

-- Sources as JSON. A source, its spec and its status may also be given as the list of their
-- parts, in the order in which the readers below for lists name them.
namespace ConfigFanout

def apiGroup : String := "homerow.ca"

def apiVersion : String := "v1alpha1"

namespace ArtifactKind

/-- A kind from its word, or from an object whose one member has that word as its name and
null as its value. -/
def read : Reader ArtifactKind
  | .string word => ofWord word
  | .object [(word, value)] => do
    let kind ← ofWord word
    match value with
    | .null => .ok kind
    | other => .error (.invalidType other.outline "unit")
  | .object _ => .error (.invalidValue .map "map with a single key")
  | other => .error (.invalidType other.outline "string or map")
where
  /-- The kind that a word asks for. -/
  ofWord (word : String) : Except ReadFault ArtifactKind :=
    match ofWord? word with
    | some kind => .ok kind
    | none => .error (.unknownVariant word (every.map ArtifactKind.word))

def form : Json.Form := .choice (every.map word)

end ArtifactKind

namespace ClusterConfigSpec

def write (spec : ClusterConfigSpec) : Json :=
  .object <| Json.present
    [("configType", some (.string spec.kind.word)),
     ("data", some (TextMap.write .string spec.data)),
     ("namespaceList", some (.string spec.namespaceList)),
     ("type", spec.secretType.map .string)]

def form : Json.Form :=
  .strict "ClusterConfigSpec"
    [("namespaceList", .text), ("configType", ArtifactKind.form), ("data", .entries .text),
     ("type", .nullable .text)]
    ["configType"] ["configType"]

/-- The spec from the list of its parts. Only the last two may be left out. -/
def ofList : List Json → Except ReadFault ClusterConfigSpec
  | namespaceList :: kind :: rest => do
    let namespaceList ← Reader.text namespaceList
    let kind ← ArtifactKind.read kind
    match rest with
    | [] => return { namespaceList, kind }
    | data :: rest =>
      let data ← TextMap.read Reader.text data
      match rest with
      | [] => return { namespaceList, kind, data }
      | secretType :: rest =>
        let secretType ← Reader.nullable Reader.text secretType
        if rest.isEmpty then return { namespaceList, kind, data, secretType }
        else throw (.invalidLength (4 + rest.length) "fewer elements in array")
  | [namespaceList] => do
    discard (Reader.text namespaceList)
    throw (.invalidLength 1 "struct ClusterConfigSpec with 4 elements")
  | [] => throw (.invalidLength 1 "struct ClusterConfigSpec with 4 elements")

def read : Reader ClusterConfigSpec
  | .array parts => ofList parts
  | json => do
    let json ← Reader.record "struct ClusterConfigSpec" json
    let kind ← json.field? "configType" ArtifactKind.read
    let data ← json.field? "data" (TextMap.read Reader.text)
    let namespaceList ← json.field? "namespaceList" Reader.text
    let secretType ← json.nullableField? "type" Reader.text
    let kind ← require "configType" kind
    return { namespaceList := namespaceList.getD "", kind, data := data.getD ∅, secretType }

end ClusterConfigSpec

namespace ClusterConfigStatus

def write (status : ClusterConfigStatus) : Json :=
  .object [("processedNamespace", writeTexts status.processed)]

def form : Json.Form :=
  .strict "ClusterConfigStatus" [("processedNamespace", textsForm)] [] []

def read : Reader ClusterConfigStatus
  | .array [] => return {}
  | .array [processed] => return { processed := ← Reader.list Reader.text processed }
  | .array (processed :: rest) => do
    discard (Reader.list Reader.text processed)
    throw (.invalidLength (1 + rest.length) "fewer elements in array")
  | json => do
    let json ← Reader.record "struct ClusterConfigStatus" json
    let processed ← json.field? "processedNamespace" (Reader.list Reader.text)
    return { processed := processed.getD [] }

end ClusterConfigStatus

namespace ClusterConfig

def write (source : ClusterConfig) : Json :=
  .object <| Json.present
    [("apiVersion", some (.string (apiGroup ++ "/" ++ apiVersion))),
     ("kind", some (.string ResourceKind.clusterConfig.name)),
     ("metadata", some source.metadata.write),
     ("spec", some source.spec.write),
     ("status", source.status.map ClusterConfigStatus.write)]

def form : Json.Form :=
  .strict "ClusterConfig"
    [("metadata", Metadata.form), ("spec", ClusterConfigSpec.form),
     ("status", .nullable ClusterConfigStatus.form)]
    ["metadata", "spec"] ["metadata", "spec", "status"]

/-- A source from the list of its parts. None may be left out. -/
def ofList : List Json → Except ReadFault ClusterConfig
  | [] => throw (.invalidLength 0 "struct ClusterConfig with 3 elements")
  | metadata :: rest => do
    let metadata ← Metadata.read metadata
    match rest with
    | [] => throw (.invalidLength 1 "struct ClusterConfig with 3 elements")
    | spec :: rest =>
      let spec ← ClusterConfigSpec.read spec
      match rest with
      | [] => throw (.invalidLength 2 "struct ClusterConfig with 3 elements")
      | status :: rest =>
        let status ← Reader.nullable ClusterConfigStatus.read status
        if rest.isEmpty then return { metadata, spec, status }
        else throw (.invalidLength (3 + rest.length) "fewer elements in array")

/-- A source from its JSON form. Whatever it says of its kind and version is not looked at. -/
def read : Reader ClusterConfig
  | .array parts => ofList parts
  | json => do
    let json ← Reader.record "struct ClusterConfig" json
    let metadata ← json.field? "metadata" Metadata.read
    let spec ← json.field? "spec" ClusterConfigSpec.read
    let status ← json.nullableField? "status" ClusterConfigStatus.read
    let metadata ← require "metadata" metadata
    let spec ← require "spec" spec
    return { metadata, spec, status }

end ClusterConfig

end ConfigFanout
