import ConfigFanout.Program

-- A cluster in memory that answers the calls of a program. Every write gives the object a
-- version that no object had before, and a write that was meant for another version is
-- refused.
namespace ConfigFanout

/-- What is in a cluster. -/
structure Cluster where
  namespaces : List String := []
  sources : ObjectMap ClusterConfig := ∅
  configMaps : ObjectMap (Artifact .configMap) := ∅
  secrets : ObjectMap (Artifact .secret) := ∅
  /-- The last version that was given out. -/
  version : Nat := 0
  deriving DecidableEq, Inhabited

/-- Metadata of a given version. -/
def Metadata.atVersion (metadata : Metadata) (version : Nat) : Metadata :=
  { metadata with resourceVersion := some (toString version) }

/-- The source at a given version. -/
def ClusterConfig.atVersion (source : ClusterConfig) (version : Nat) : ClusterConfig :=
  { source with metadata := source.metadata.atVersion version }

/-- The artifact at a given version. -/
def Artifact.atVersion {kind : ArtifactKind} (artifact : Artifact kind) (version : Nat) :
    Artifact kind :=
  { artifact with metadata := artifact.metadata.atVersion version }

namespace Refusal

/-- The object has another version than the one that was to be replaced. -/
def conflict (name : String) : Refusal :=
  { message := s!"the object {name} has been modified", reason := "Conflict", code := 409 }

def alreadyExists (kind : ArtifactKind) (name : String) : Refusal :=
  { message := s!"{kind.name} {name} already exists", reason := "AlreadyExists", code := 409 }

end Refusal

namespace Cluster

def artifacts (cluster : Cluster) (kind : ArtifactKind) : ObjectMap (Artifact kind) :=
  match kind with
  | .configMap => cluster.configMaps
  | .secret => cluster.secrets

/-- The cluster with other artifacts of a kind. -/
def withArtifacts (cluster : Cluster) (kind : ArtifactKind)
    (artifacts : ObjectMap (Artifact kind)) : Cluster :=
  match kind, artifacts with
  | .configMap, artifacts => { cluster with configMaps := artifacts }
  | .secret, artifacts => { cluster with secrets := artifacts }

/-- The version that the next write gives. -/
def nextVersion (cluster : Cluster) : Nat :=
  cluster.version + 1

/-- The cluster with a source put where it belongs, at a new version. -/
def putSource (cluster : Cluster) (key : ObjectKey) (source : ClusterConfig) : Cluster :=
  { cluster with
    sources := cluster.sources.insert key (source.atVersion cluster.nextVersion)
    version := cluster.nextVersion }

/-- The cluster with an artifact put where it belongs, at a new version. -/
def putArtifact (cluster : Cluster) {kind : ArtifactKind} (artifact : Artifact kind) :
    Cluster :=
  let artifacts := (cluster.artifacts kind).insert artifact.metadata.key
    (artifact.atVersion cluster.nextVersion)
  { cluster.withArtifacts kind artifacts with version := cluster.nextVersion }

def removeSource (cluster : Cluster) (key : ObjectKey) : Cluster :=
  { cluster with sources := cluster.sources.erase key }

def removeArtifact (cluster : Cluster) (kind : ArtifactKind) (key : ObjectKey) : Cluster :=
  cluster.withArtifacts kind ((cluster.artifacts kind).erase key)

/-- What is stored under a key, or the error that nothing is. -/
def find {α : Type} (objects : ObjectMap α) (kind : ResourceKind) (key : ObjectKey) :
    Except Error α :=
  match objects[key]? with
  | some object => .ok object
  | none => .error (.notFound kind key)

/-- Puts a source in place of the stored one of the same version. The stored status stays.
A source on its way out that has no finalizers left is gone then. -/
def updateSource (cluster : Cluster) (source : ClusterConfig) :
    Except Error (ClusterConfig × Cluster) := do
  let key := source.metadata.key
  let stored ← find cluster.sources .clusterConfig key
  if stored.metadata.resourceVersion ≠ source.metadata.resourceVersion then
    throw (.store (.refused (.conflict key.name)))
  let updated := { source with status := stored.status }
  let written := cluster.putSource key updated
  let cluster :=
    if updated.isDeleting && updated.metadata.held.isEmpty then written.removeSource key
    else written
  return (updated.atVersion cluster.version, cluster)

/-- Puts the status of a source in place of the stored one. All else stays as stored, and
versions do not matter. -/
def updateStatus (cluster : Cluster) (source : ClusterConfig) :
    Except Error (ClusterConfig × Cluster) := do
  let key := source.metadata.key
  let stored ← find cluster.sources .clusterConfig key
  let updated := { stored with status := source.status }
  return (updated.atVersion cluster.nextVersion, cluster.putSource key updated)

/-- Puts a new artifact into a namespace that is there. -/
def createArtifact (cluster : Cluster) {kind : ArtifactKind} (artifact : Artifact kind) :
    Except Error (Artifact kind × Cluster) := do
  let key := artifact.metadata.key
  if !cluster.namespaces.contains key.ns then
    throw (.notFound .namespace ⟨"", key.ns⟩)
  if (cluster.artifacts kind).contains key then
    throw (.store (.refused (.alreadyExists kind key.name)))
  return (artifact.atVersion cluster.nextVersion, cluster.putArtifact artifact)

/-- Puts an artifact in place of the stored one of the same version. -/
def replaceArtifact (cluster : Cluster) {kind : ArtifactKind} (artifact : Artifact kind) :
    Except Error (Artifact kind × Cluster) := do
  let key := artifact.metadata.key
  let stored ← find (cluster.artifacts kind) kind.resource key
  if stored.metadata.resourceVersion ≠ artifact.metadata.resourceVersion then
    throw (.store (.refused (.conflict key.name)))
  return (artifact.atVersion cluster.nextVersion, cluster.putArtifact artifact)

def deleteArtifact (cluster : Cluster) (kind : ArtifactKind) (key : ObjectKey) :
    Except Error (Unit × Cluster) := do
  discard (find (cluster.artifacts kind) kind.resource key)
  return ((), cluster.removeArtifact kind key)

/-- The answer to a call, and the cluster after it. A call that fails changes nothing. -/
def perform (cluster : Cluster) :
    (request : StoreCall) → Except Error (request.Answer × Cluster)
  | .getSource key => do return (← find cluster.sources .clusterConfig key, cluster)
  | .updateSource source => cluster.updateSource source
  | .updateStatus source => cluster.updateStatus source
  | .listNamespaces => return (cluster.namespaces, cluster)
  | .getArtifact kind key => do
    return (← find (cluster.artifacts kind) kind.resource key, cluster)
  | .createArtifact _ artifact => cluster.createArtifact artifact
  | .replaceArtifact _ artifact => cluster.replaceArtifact artifact
  | .deleteArtifact kind key => cluster.deleteArtifact kind key

/-- The answer to a call, and the cluster after it, which is the old one if the call
fails. -/
def answer (request : StoreCall) (cluster : Cluster) :
    Except Error request.Answer × Cluster :=
  match cluster.perform request with
  | .ok (answer, cluster) => (.ok answer, cluster)
  | .error error => (.error error, cluster)

end Cluster

end ConfigFanout
