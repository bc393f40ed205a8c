import ConfigFanout.ClusterConfig
import ConfigFanout.Text.Bytes

-- Artifacts: the objects that hold a copy of the data of a source. The two kinds differ in
-- what an entry of their data is, a text or some bytes, and in a few parts of their own.
namespace ConfigFanout

namespace ArtifactKind

/-- What one entry of the data of an artifact is. -/
abbrev Value : ArtifactKind → Type
  | .configMap => String
  | .secret => Text.Bytes

instance (kind : ArtifactKind) : DecidableEq kind.Value :=
  match kind with
  | .configMap => inferInstanceAs (DecidableEq String)
  | .secret => inferInstanceAs (DecidableEq Text.Bytes)

instance (kind : ArtifactKind) : LawfulBEq kind.Value :=
  inferInstance

/-- A text as an entry of an artifact. -/
def value (kind : ArtifactKind) (text : String) : kind.Value :=
  match kind with
  | .configMap => text
  | .secret => Text.utf8 text

/-- The parts that only ConfigMaps have. -/
structure ConfigMapParts where
  binaryData : Option (TextMap Text.Bytes) := none
  deriving DecidableEq, Inhabited

/-- The parts that only Secrets have. -/
structure SecretParts where
  stringData : Option (TextMap String) := none
  secretType : Option String := none
  deriving DecidableEq, Inhabited

/-- The parts that only artifacts of the kind have. -/
abbrev Parts : ArtifactKind → Type
  | .configMap => ConfigMapParts
  | .secret => SecretParts

instance (kind : ArtifactKind) : DecidableEq kind.Parts :=
  match kind with
  | .configMap => inferInstanceAs (DecidableEq ConfigMapParts)
  | .secret => inferInstanceAs (DecidableEq SecretParts)

/-- What an artifact carries for its source. -/
abbrev Payload (kind : ArtifactKind) := TextMap kind.Value

/-- The payload that a source asks for. -/
def payload (kind : ArtifactKind) (source : ClusterConfig) : kind.Payload :=
  source.spec.data.map fun _ text => kind.value text

/-- The parts of its own that a new artifact has: a Secret takes its type from the source,
unless that is empty. -/
def newParts (kind : ArtifactKind) (source : ClusterConfig) : kind.Parts :=
  match kind with
  | .configMap => {}
  | .secret => { secretType := source.spec.secretType.filter (· ≠ "") }

end ArtifactKind

structure Artifact (kind : ArtifactKind) where
  metadata : Metadata
  /-- The entries. Absent is not empty. -/
  data : Option kind.Payload := none
  immutable : Option Bool := none
  /-- What only artifacts of this kind have. -/
  parts : kind.Parts
  deriving DecidableEq

namespace Artifact

variable {kind : ArtifactKind}

def sourceLabel : String := "homerow.ca/cluster-config"

def sourceNamespaceLabel : String := "homerow.ca/cluster-config-namespace"

/-- The entries, none if there are no data. -/
def payload (artifact : Artifact kind) : kind.Payload :=
  artifact.data.getD ∅

/-- The artifact with other entries. -/
def withPayload (artifact : Artifact kind) (payload : kind.Payload) : Artifact kind :=
  { artifact with data := some payload }

/-- A new artifact for a source. -/
def build (metadata : Metadata) (payload : kind.Payload) (source : ClusterConfig) :
    Artifact kind :=
  { metadata, data := some payload, parts := kind.newParts source }

/-- The source that the labels name, by its place in the store. A missing namespace label
stands for the empty namespace. -/
def owner? (artifact : Artifact kind) : Option ObjectKey := do
  let labels ← artifact.metadata.labels
  let name ← labels[sourceLabel]?
  return ⟨labels[sourceNamespaceLabel]?.getD "", name⟩

/-- The other source that the labels name, if they name one that is not this one. -/
def otherOwner? (artifact : Artifact kind) (source : ClusterConfig) : Option ObjectKey :=
  artifact.owner?.filter (· ≠ source.metadata.key)

/-- Labels with the two that name a source. -/
def ownerLabels (source : ClusterConfig) (labels : TextMap String) : TextMap String :=
  (labels.insert sourceLabel source.metadata.key.name).insert sourceNamespaceLabel
    source.metadata.key.ns

/-- The artifact with labels that name the source. Its other labels stay. -/
def adopt (artifact : Artifact kind) (source : ClusterConfig) : Artifact kind :=
  let labels := ownerLabels source (artifact.metadata.labels.getD ∅)
  { artifact with metadata := { artifact.metadata with labels := some labels } }

/-- The metadata of a new artifact for a source: its name, a namespace, and the two labels. -/
def newMetadata (source : ClusterConfig) (name ns : String) : Metadata :=
  { name := some name, ns := some ns, labels := some (ownerLabels source ∅) }

end Artifact

end ConfigFanout
