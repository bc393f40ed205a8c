import ConfigFanout.Artifact
import ConfigFanout.Metadata.Wire
import ConfigFanout.Text.Base64

-- Artifacts as JSON. Bytes are written in base64. When reading, everything may be missing,
-- but a version and a kind that are there have to be the right ones.
namespace ConfigFanout

namespace Text

/-- Bytes as base64 text. -/
def writeBytes (bytes : Bytes) : Json :=
  .string (String.ofList (Base64.encode bytes))

/-- Bytes, as messages have them. -/
def bytesDescription : String := "a base64-encoded string"

/-- Bytes from base64 text. Null is read as no bytes. -/
def readBytes : Reader Bytes
  | .null => .ok []
  | .string text =>
    match Base64.decode? text.toList with
    | some bytes => .ok bytes
    | none => .error (.malformed (Base64.fault (utf8 text)).message)
  | other => .error (.invalidType other.outline bytesDescription)

/-- The form of base64 text, or null. -/
def bytesForm : Json.Form :=
  .nullable (.formatted bytesDescription fun text => discard (readBytes (.string text)))

end Text

def artifactVersion : String := "v1"

/-- The word that has to stand there, or nothing at all. -/
def readFixed (json : Json) (name word : String) : Except ReadFault Unit :=
  discard (json.field? name (Reader.word word))

namespace ArtifactKind

def writeValue (kind : ArtifactKind) : kind.Value → Json :=
  match kind with
  | .configMap => .string
  | .secret => Text.writeBytes

def valueForm : ArtifactKind → Json.Form
  | .configMap => .text
  | .secret => Text.bytesForm

def readValue (kind : ArtifactKind) : Reader kind.Value :=
  match kind with
  | .configMap => Reader.text
  | .secret => Text.readBytes

end ArtifactKind

namespace Artifact

def writeConfigMap (artifact : Artifact .configMap) : Json :=
  .object <| Json.present
    [("apiVersion", some (.string artifactVersion)),
     ("binaryData", artifact.parts.binaryData.map (TextMap.write Text.writeBytes)),
     ("data", artifact.data.map (TextMap.write (ArtifactKind.writeValue .configMap))),
     ("immutable", artifact.immutable.map .bool),
     ("kind", some (.string ArtifactKind.configMap.name)),
     ("metadata", some artifact.metadata.write)]

def writeSecret (artifact : Artifact .secret) : Json :=
  .object <| Json.present
    [("apiVersion", some (.string artifactVersion)),
     ("data", artifact.data.map (TextMap.write (ArtifactKind.writeValue .secret))),
     ("immutable", artifact.immutable.map .bool),
     ("kind", some (.string ArtifactKind.secret.name)),
     ("metadata", some artifact.metadata.write),
     ("stringData", artifact.parts.stringData.map (TextMap.write .string)),
     ("type", artifact.parts.secretType.map .string)]

def write {kind : ArtifactKind} (artifact : Artifact kind) : Json :=
  match kind, artifact with
  | .configMap, artifact => writeConfigMap artifact
  | .secret, artifact => writeSecret artifact

def form (kind : ArtifactKind) : Json.Form :=
  .loose kind.name (("data", .entries kind.valueForm) :: members)
    [("apiVersion", artifactVersion), ("kind", kind.name)]
where
  /-- The members besides the data. -/
  members : List (String × Json.Form) :=
    [("immutable", .bool), ("metadata", Metadata.form)] ++
      match kind with
      | .configMap => [("binaryData", .entries Text.bytesForm)]
      | .secret => [("stringData", .entries .text), ("type", .text)]

def readConfigMap : Reader (Artifact .configMap) := fun json => do
  let json ← Reader.record ArtifactKind.configMap.name json
  readFixed json "apiVersion" artifactVersion
  let binaryData ← json.nullableField? "binaryData" (TextMap.read Text.readBytes)
  let data ← json.nullableField? "data" (TextMap.read (ArtifactKind.readValue .configMap))
  let immutable ← json.nullableField? "immutable" Reader.bool
  readFixed json "kind" ArtifactKind.configMap.name
  let metadata ← json.nullableField? "metadata" Metadata.read
  return { metadata := metadata.getD {}, data, immutable, parts := { binaryData } }

def readSecret : Reader (Artifact .secret) := fun json => do
  let json ← Reader.record ArtifactKind.secret.name json
  readFixed json "apiVersion" artifactVersion
  let data ← json.nullableField? "data" (TextMap.read (ArtifactKind.readValue .secret))
  let immutable ← json.nullableField? "immutable" Reader.bool
  readFixed json "kind" ArtifactKind.secret.name
  let metadata ← json.nullableField? "metadata" Metadata.read
  let stringData ← json.nullableField? "stringData" (TextMap.read Reader.text)
  let secretType ← json.nullableField? "type" Reader.text
  return { metadata := metadata.getD {}, data, immutable, parts := { stringData, secretType } }

def read (kind : ArtifactKind) : Reader (Artifact kind) :=
  match kind with
  | .configMap => readConfigMap
  | .secret => readSecret

end Artifact

end ConfigFanout
