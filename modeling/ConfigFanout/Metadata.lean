import ConfigFanout.Json.Basic
import ConfigFanout.ObjectMap
import ConfigFanout.Timestamp.Basic

-- What every stored object says about itself.
namespace ConfigFanout

/-- A note that an object belongs to another one. -/
structure OwnerReference where
  apiVersion : String := ""
  blockOwnerDeletion : Option Bool := none
  controller : Option Bool := none
  kind : String := ""
  name : String := ""
  uid : String := ""
  deriving DecidableEq, Inhabited

/-- A note on who wrote which parts of an object. -/
structure ManagedFields where
  apiVersion : Option String := none
  fieldsType : Option String := none
  /-- Which parts, in a format that only those who write it know. -/
  fields : Option Json := none
  manager : Option String := none
  operation : Option String := none
  subresource : Option String := none
  time : Option Timestamp := none
  deriving DecidableEq, Inhabited

/-- The metadata of an object. Every part may be absent, and absent is not empty. -/
structure Metadata where
  annotations : Option (TextMap String) := none
  creationTimestamp : Option Timestamp := none
  deletionGracePeriodSeconds : Option Int64 := none
  deletionTimestamp : Option Timestamp := none
  finalizers : Option (List String) := none
  generateName : Option String := none
  generation : Option Int64 := none
  labels : Option (TextMap String) := none
  managedFields : Option (List ManagedFields) := none
  name : Option String := none
  /-- The namespace. -/
  ns : Option String := none
  ownerReferences : Option (List OwnerReference) := none
  resourceVersion : Option String := none
  selfLink : Option String := none
  uid : Option String := none
  deriving DecidableEq, Inhabited

namespace Metadata

/-- The name, or what a name is to be made from, or nothing. -/
def anyName (metadata : Metadata) : String :=
  (metadata.name <|> metadata.generateName).getD ""

/-- Where the object is stored. -/
def key (metadata : Metadata) : ObjectKey :=
  ⟨metadata.ns.getD "", metadata.anyName⟩

/-- The finalizers, none if there is no list. -/
def held (metadata : Metadata) : List String :=
  metadata.finalizers.getD []

end Metadata

end ConfigFanout
