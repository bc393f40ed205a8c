import ConfigFanout.Json.Reader
import ConfigFanout.Metadata
import ConfigFanout.Timestamp.Parser

-- Metadata as JSON. What is absent is not written, and null is read as absent.
namespace ConfigFanout

namespace TextMap

variable {α : Type}

/-- A map as an object. -/
def write (value : α → Json) (map : TextMap α) : Json :=
  .object (map.toList.map fun (name, entry) => (name, value entry))

/-- A map from an object. -/
def read (reader : Reader α) : Reader (TextMap α) := fun json =>
  (Reader.entries reader json).map (Std.ExtTreeMap.ofList ·)

end TextMap

def textsForm : Json.Form := .list .text

def writeTexts (texts : List String) : Json :=
  .array (texts.map .string)

namespace Timestamp

/-- A point in time, as messages have it. -/
def description : String := "an RFC 3339 formatted date and time string"

/-- A point in time from its text. -/
def read : Reader Timestamp
  | .string text =>
    match parse text with
    | .ok time => .ok time
    | .error fault => .error (.malformed fault.message)
  | other => .error (.invalidType other.outline description)

def form : Json.Form :=
  .formatted description fun text => discard (read (.string text))

end Timestamp

namespace OwnerReference

def write (owner : OwnerReference) : Json :=
  .object <| Json.present
    [("apiVersion", some (.string owner.apiVersion)),
     ("blockOwnerDeletion", owner.blockOwnerDeletion.map .bool),
     ("controller", owner.controller.map .bool),
     ("kind", some (.string owner.kind)),
     ("name", some (.string owner.name)),
     ("uid", some (.string owner.uid))]

def form : Json.Form :=
  .loose "OwnerReference"
    [("apiVersion", .text), ("blockOwnerDeletion", .bool), ("controller", .bool),
     ("kind", .text), ("name", .text), ("uid", .text)] []

/-- A missing text is read as empty. -/
def read : Reader OwnerReference := fun json => do
  let json ← Reader.record "OwnerReference" json
  let apiVersion ← json.nullableField? "apiVersion" Reader.text
  let blockOwnerDeletion ← json.nullableField? "blockOwnerDeletion" Reader.bool
  let controller ← json.nullableField? "controller" Reader.bool
  let kind ← json.nullableField? "kind" Reader.text
  let name ← json.nullableField? "name" Reader.text
  let uid ← json.nullableField? "uid" Reader.text
  return { apiVersion := apiVersion.getD "", blockOwnerDeletion, controller, kind := kind.getD "",
           name := name.getD "", uid := uid.getD "" }

end OwnerReference

namespace ManagedFields

def write (managed : ManagedFields) : Json :=
  .object <| Json.present
    [("apiVersion", managed.apiVersion.map .string),
     ("fieldsType", managed.fieldsType.map .string),
     ("fieldsV1", managed.fields),
     ("manager", managed.manager.map .string),
     ("operation", managed.operation.map .string),
     ("subresource", managed.subresource.map .string),
     ("time", managed.time.map (.string ·.render))]

def form : Json.Form :=
  .loose "ManagedFieldsEntry"
    [("apiVersion", .text), ("fieldsType", .text), ("fieldsV1", .anything), ("manager", .text),
     ("operation", .text), ("subresource", .text), ("time", Timestamp.form)] []

def read : Reader ManagedFields := fun json => do
  let json ← Reader.record "ManagedFieldsEntry" json
  let apiVersion ← json.nullableField? "apiVersion" Reader.text
  let fieldsType ← json.nullableField? "fieldsType" Reader.text
  let fields ← json.nullableField? "fieldsV1" Reader.anything
  let manager ← json.nullableField? "manager" Reader.text
  let operation ← json.nullableField? "operation" Reader.text
  let subresource ← json.nullableField? "subresource" Reader.text
  let time ← json.nullableField? "time" Timestamp.read
  return { apiVersion, fieldsType, fields, manager, operation, subresource, time }

end ManagedFields

namespace Metadata

def write (metadata : Metadata) : Json :=
  .object <| Json.present
    [("annotations", metadata.annotations.map (TextMap.write .string)),
     ("creationTimestamp", metadata.creationTimestamp.map (.string ·.render)),
     ("deletionGracePeriodSeconds",
       metadata.deletionGracePeriodSeconds.map (.integer ·.toInt)),
     ("deletionTimestamp", metadata.deletionTimestamp.map (.string ·.render)),
     ("finalizers", metadata.finalizers.map writeTexts),
     ("generateName", metadata.generateName.map .string),
     ("generation", metadata.generation.map (.integer ·.toInt)),
     ("labels", metadata.labels.map (TextMap.write .string)),
     ("managedFields", metadata.managedFields.map (.array <| ·.map ManagedFields.write)),
     ("name", metadata.name.map .string),
     ("namespace", metadata.ns.map .string),
     ("ownerReferences", metadata.ownerReferences.map (.array <| ·.map OwnerReference.write)),
     ("resourceVersion", metadata.resourceVersion.map .string),
     ("selfLink", metadata.selfLink.map .string),
     ("uid", metadata.uid.map .string)]

def form : Json.Form :=
  .loose "ObjectMeta"
    [("annotations", .entries .text), ("creationTimestamp", Timestamp.form),
     ("deletionGracePeriodSeconds", .int64), ("deletionTimestamp", Timestamp.form),
     ("finalizers", textsForm), ("generateName", .text), ("generation", .int64),
     ("labels", .entries .text), ("managedFields", .list ManagedFields.form), ("name", .text),
     ("namespace", .text), ("ownerReferences", .list OwnerReference.form),
     ("resourceVersion", .text), ("selfLink", .text), ("uid", .text)] []

def read : Reader Metadata := fun json => do
  let json ← Reader.record "ObjectMeta" json
  let annotations ← json.nullableField? "annotations" (TextMap.read Reader.text)
  let creationTimestamp ← json.nullableField? "creationTimestamp" Timestamp.read
  let deletionGracePeriodSeconds ←
    json.nullableField? "deletionGracePeriodSeconds" Reader.int64
  let deletionTimestamp ← json.nullableField? "deletionTimestamp" Timestamp.read
  let finalizers ← json.nullableField? "finalizers" (Reader.list Reader.text)
  let generateName ← json.nullableField? "generateName" Reader.text
  let generation ← json.nullableField? "generation" Reader.int64
  let labels ← json.nullableField? "labels" (TextMap.read Reader.text)
  let managedFields ←
    json.nullableField? "managedFields" (Reader.list ManagedFields.read)
  let name ← json.nullableField? "name" Reader.text
  let ns ← json.nullableField? "namespace" Reader.text
  let ownerReferences ←
    json.nullableField? "ownerReferences" (Reader.list OwnerReference.read)
  let resourceVersion ← json.nullableField? "resourceVersion" Reader.text
  let selfLink ← json.nullableField? "selfLink" Reader.text
  let uid ← json.nullableField? "uid" Reader.text
  return { annotations, creationTimestamp, deletionGracePeriodSeconds, deletionTimestamp,
           finalizers, generateName, generation, labels, managedFields, name, ns,
           ownerReferences, resourceVersion, selfLink, uid }

end Metadata

end ConfigFanout
