import ConfigFanout.ArtifactKind
import ConfigFanout.Metadata
import ConfigFanout.NamespaceList

-- Sources: the objects whose data is copied into the namespaces that they name.
namespace ConfigFanout

/-- What a source asks for. -/
structure ClusterConfigSpec where
  /-- The namespaces to copy to, divided by commas, or the word for all of them. -/
  namespaceList : String := ""
  /-- The kind of object to copy into. -/
  kind : ArtifactKind
  data : TextMap String := ∅
  /-- The type that a new Secret gets. -/
  secretType : Option String := none
  deriving DecidableEq, Inhabited

/-- What is known of the copies of a source. -/
structure ClusterConfigStatus where
  /-- The namespaces that held a copy when they were last brought up to date. -/
  processed : List String := []
  deriving DecidableEq, Inhabited

structure ClusterConfig where
  metadata : Metadata
  spec : ClusterConfigSpec
  status : Option ClusterConfigStatus := none
  deriving DecidableEq, Inhabited

namespace ClusterConfig

/-- The namespaces of the status, none if there is no status. -/
def processed (source : ClusterConfig) : List String :=
  (source.status.map (·.processed)).getD []

/-- Whether the source asks for every namespace. -/
def targetsAll (source : ClusterConfig) : Bool :=
  NamespaceList.isEvery (NamespaceList.parse source.spec.namespaceList)

/-- Whether the source is on its way out and only waits for its finalizers to go. -/
def isDeleting (source : ClusterConfig) : Bool :=
  source.metadata.deletionTimestamp.isSome

end ClusterConfig

end ConfigFanout
