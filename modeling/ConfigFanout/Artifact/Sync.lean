import ConfigFanout.Program

-- Bringing the copy of a source in one namespace up to date, and taking it away. A copy
-- whose labels name another source is never written.
namespace ConfigFanout

/-- What bringing a copy up to date came to. -/
inductive Synced where
  | created
  | updated
  | unchanged
  deriving DecidableEq, Repr, Inhabited

/-- What taking a copy away came to. -/
inductive Removal where
  | deleted
  | alreadyAbsent
  /-- The labels name another source. -/
  | notOwned
  deriving DecidableEq, Repr, Inhabited

namespace ClusterConfig

/-- The name, which a stored source has. -/
def requireName (source : ClusterConfig) : Except Error String :=
  match source.metadata.name with
  | some name => .ok name
  | none => .error (.missingMetadata "name")

/-- What becomes of an artifact that is there: it may belong to another source, or be fine
as it is, or have to change. One without labels is adopted. -/
def revise {kind : ArtifactKind} (source : ClusterConfig) (existing : Artifact kind) :
    Option (Artifact kind) :=
  let desired := kind.payload source
  if existing.owner?.isNone then some ((existing.adopt source).withPayload desired)
  else if existing.payload = desired then none
  else some (existing.withPayload desired)

/-- Makes sure that the artifact with the name of the source carries its data. -/
def synchronize (kind : ArtifactKind) (source : ClusterConfig) (ns : String) :
    Program Synced := do
  let name ← Program.ofExcept source.requireName
  match ← (Program.ask (.getArtifact kind ⟨ns, name⟩)).attempt with
  | .error error =>
    if error.isNotFound then
      let metadata := Artifact.newMetadata source name ns
      let artifact : Artifact kind := Artifact.build metadata (kind.payload source) source
      discard (Program.ask (.createArtifact kind artifact))
      return .created
    else Program.fail error
  | .ok existing =>
    match existing.otherOwner? source with
    | some owner => Program.fail (.foreign kind.resource ⟨ns, name⟩ owner.path)
    | none =>
      match source.revise existing with
      | none => return .unchanged
      | some revised =>
        discard (Program.ask (.replaceArtifact kind revised))
        return .updated

/-- Takes away the artifact with the name of the source. -/
def withdraw (kind : ArtifactKind) (source : ClusterConfig) (ns : String) :
    Program Removal := do
  let name ← Program.ofExcept source.requireName
  match ← (Program.ask (.getArtifact kind ⟨ns, name⟩)).attempt with
  | .error error => if error.isNotFound then return .alreadyAbsent else Program.fail error
  | .ok existing =>
    if (existing.otherOwner? source).isSome then return .notOwned
    else
      match ← (Program.ask (.deleteArtifact kind ⟨ns, name⟩)).attempt with
      | .ok () => return .deleted
      | .error error => if error.isNotFound then return .alreadyAbsent else Program.fail error

end ClusterConfig

end ConfigFanout
