import ConfigFanout.Artifact.Wire

-- The list of namespaces, as an API server gives it. Of a namespace, only the name is kept.
namespace ConfigFanout.Api

open Json (Form)

/-- What a namespace was told about itself. -/
def conditionForm : Form :=
  .loose "NamespaceCondition"
    [("lastTransitionTime", Timestamp.form), ("message", .text), ("reason", .text),
     ("status", .text), ("type", .text)] []

def namespaceForm : Form :=
  .loose ResourceKind.namespace.name
    [("metadata", Metadata.form),
     ("spec", .loose "NamespaceSpec" [("finalizers", textsForm)] []),
     ("status", .loose "NamespaceStatus"
       [("conditions", .list conditionForm), ("phase", .text)] [])]
    [("apiVersion", artifactVersion), ("kind", ResourceKind.namespace.name)]

/-- What is said of the list itself. -/
def listMetadataForm : Form :=
  .loose "ListMeta"
    [("continue", .text), ("remainingItemCount", .int64), ("resourceVersion", .text),
     ("selfLink", .text)] []

def namespacesForm : Form :=
  .record
    { expected := "struct ObjectList"
      members := [("items", .nullable (.list namespaceForm)), ("metadata", listMetadataForm)]
      required := ["items"]
      looksAtAll := true
      listUse := .foreign }

def readNamespace : Reader String := fun json => do
  let metadata ← json.nullableField? "metadata" Metadata.read
  return (metadata.getD {}).anyName

/-- The names in a list of namespaces, where null is an empty list. -/
def readNamespaces : Reader (List String) := fun json => do
  let items ← json.field? "items" (Reader.nullable (Reader.list readNamespace))
  return (← require "items" items).getD []

end ConfigFanout.Api
