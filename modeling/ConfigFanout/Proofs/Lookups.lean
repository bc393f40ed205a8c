import ConfigFanout.Cluster.Basic

-- What is stored where after each write, and that every object stays under its own key.
namespace ConfigFanout

theorem ObjectMap.getElem?_insert {α : Type} (objects : ObjectMap α) (key other : ObjectKey)
    (object : α) :
    (objects.insert key object)[other]? = if key = other then some object else objects[other]? := by
  rw [Std.ExtTreeMap.getElem?_insert]
  simp only [Std.compare_eq_iff_eq]

theorem ObjectMap.getElem?_erase {α : Type} (objects : ObjectMap α) (key other : ObjectKey) :
    (objects.erase key)[other]? = if key = other then none else objects[other]? := by
  rw [Std.ExtTreeMap.getElem?_erase]
  simp only [Std.compare_eq_iff_eq]

/-! ## The parts of a cluster after a write -/

namespace Cluster

variable (cluster : Cluster) {kind : ArtifactKind}

@[simp] theorem artifacts_withArtifacts (kind : ArtifactKind)
    (artifacts : ObjectMap (Artifact kind)) :
    (cluster.withArtifacts kind artifacts).artifacts kind = artifacts := by
  cases kind <;> rfl

theorem artifacts_withArtifacts_ne {kind other : ArtifactKind} (h : other ≠ kind)
    (artifacts : ObjectMap (Artifact kind)) :
    (cluster.withArtifacts kind artifacts).artifacts other = cluster.artifacts other := by
  cases kind <;> cases other <;> first | rfl | exact absurd rfl h

theorem sources_putSource (key other : ObjectKey) (source : ClusterConfig) :
    (cluster.putSource key source).sources[other]? =
      if key = other then some (source.atVersion cluster.nextVersion)
      else cluster.sources[other]? :=
  ObjectMap.getElem?_insert ..

@[simp] theorem artifacts_putSource (key : ObjectKey) (source : ClusterConfig)
    (kind : ArtifactKind) :
    (cluster.putSource key source).artifacts kind = cluster.artifacts kind := by
  cases kind <;> rfl

theorem sources_removeSource (key other : ObjectKey) :
    (cluster.removeSource key).sources[other]? =
      if key = other then none else cluster.sources[other]? :=
  ObjectMap.getElem?_erase ..

@[simp] theorem artifacts_removeSource (key : ObjectKey) (kind : ArtifactKind) :
    (cluster.removeSource key).artifacts kind = cluster.artifacts kind := by
  cases kind <;> rfl

theorem artifacts_putArtifact (artifact : Artifact kind) (key : ObjectKey) :
    ((cluster.putArtifact artifact).artifacts kind)[key]? =
      if artifact.metadata.key = key then some (artifact.atVersion cluster.nextVersion)
      else (cluster.artifacts kind)[key]? := by
  rw [← ObjectMap.getElem?_insert]
  cases kind <;> rfl

theorem artifacts_putArtifact_ne {other : ArtifactKind} (h : other ≠ kind)
    (artifact : Artifact kind) :
    (cluster.putArtifact artifact).artifacts other = cluster.artifacts other := by
  cases kind <;> cases other <;> first | rfl | exact absurd rfl h

@[simp] theorem sources_putArtifact (artifact : Artifact kind) :
    (cluster.putArtifact artifact).sources = cluster.sources := by
  cases kind <;> rfl

@[simp] theorem namespaces_putArtifact (artifact : Artifact kind) :
    (cluster.putArtifact artifact).namespaces = cluster.namespaces := by
  cases kind <;> rfl

theorem artifacts_removeArtifact (kind : ArtifactKind) (key other : ObjectKey) :
    ((cluster.removeArtifact kind key).artifacts kind)[other]? =
      if key = other then none else (cluster.artifacts kind)[other]? := by
  rw [removeArtifact, artifacts_withArtifacts, ObjectMap.getElem?_erase]

theorem artifacts_removeArtifact_ne {kind other : ArtifactKind} (h : other ≠ kind)
    (key : ObjectKey) :
    (cluster.removeArtifact kind key).artifacts other = cluster.artifacts other :=
  cluster.artifacts_withArtifacts_ne h _

@[simp] theorem sources_removeArtifact (kind : ArtifactKind) (key : ObjectKey) :
    (cluster.removeArtifact kind key).sources = cluster.sources := by
  cases kind <;> rfl

@[simp] theorem namespaces_removeArtifact (kind : ArtifactKind) (key : ObjectKey) :
    (cluster.removeArtifact kind key).namespaces = cluster.namespaces := by
  cases kind <;> rfl

/-! ## Objects under their own keys -/

/-- Every object is stored under the key that its metadata give it. -/
structure WellKeyed (cluster : Cluster) : Prop where
  sources : ∀ key (source : ClusterConfig), cluster.sources[key]? = some source →
    source.metadata.key = key
  artifacts : ∀ kind key (artifact : Artifact kind),
    (cluster.artifacts kind)[key]? = some artifact → artifact.metadata.key = key

variable {cluster}

theorem WellKeyed.putSource (h : cluster.WellKeyed) (source : ClusterConfig) :
    (cluster.putSource source.metadata.key source).WellKeyed where
  sources key stored hs := by
    rw [sources_putSource] at hs
    split at hs
    · next heq =>
      cases hs
      exact heq
    · exact h.sources key stored hs
  artifacts other key artifact ha := by
    rw [artifacts_putSource] at ha
    exact h.artifacts other key artifact ha

theorem WellKeyed.removeSource (h : cluster.WellKeyed) (key : ObjectKey) :
    (cluster.removeSource key).WellKeyed where
  sources other stored hs := by
    rw [sources_removeSource] at hs
    split at hs
    · cases hs
    · exact h.sources other stored hs
  artifacts other key artifact ha := by
    rw [artifacts_removeSource] at ha
    exact h.artifacts other key artifact ha

theorem WellKeyed.putArtifact (h : cluster.WellKeyed) (artifact : Artifact kind) :
    (cluster.putArtifact artifact).WellKeyed where
  sources key stored hs := by
    rw [sources_putArtifact] at hs
    exact h.sources key stored hs
  artifacts other key stored hs := by
    by_cases hkind : other = kind
    · subst hkind
      rw [artifacts_putArtifact] at hs
      split at hs
      · next heq =>
        cases hs
        exact heq
      · exact h.artifacts _ key stored hs
    · rw [cluster.artifacts_putArtifact_ne hkind] at hs
      exact h.artifacts other key stored hs

theorem WellKeyed.removeArtifact (h : cluster.WellKeyed) (kind : ArtifactKind)
    (key : ObjectKey) : (cluster.removeArtifact kind key).WellKeyed where
  sources other stored hs := by
    rw [sources_removeArtifact] at hs
    exact h.sources other stored hs
  artifacts other place stored hs := by
    by_cases hkind : other = kind
    · subst hkind
      rw [artifacts_removeArtifact] at hs
      split at hs
      · cases hs
      · exact h.artifacts _ place stored hs
    · rw [cluster.artifacts_removeArtifact_ne hkind] at hs
      exact h.artifacts other place stored hs

end Cluster

end ConfigFanout
