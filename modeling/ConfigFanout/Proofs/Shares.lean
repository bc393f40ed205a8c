import ConfigFanout.Proofs.Current
import ConfigFanout.Proofs.Twins

-- A source has a share of the cluster: itself, and the artifacts of its kind that bear its name.
-- Where two clusters agree on the share up to versions, the calls of a round are answered alike,
-- and the clusters agree on it again.
namespace ConfigFanout

/-! ## Objects without their versions -/

/-- The source without its version. -/
def ClusterConfig.sansVersion (source : ClusterConfig) : ClusterConfig :=
  source.withVersion none

theorem ClusterConfig.Twin.of_sansVersion {source twin : ClusterConfig}
    (h : twin.sansVersion = source.sansVersion) : source.Twin twin :=
  ⟨twin.metadata.resourceVersion,
    congrArg (·.withVersion twin.metadata.resourceVersion) h⟩

theorem Artifact.Twin.of_sansVersion {kind : ArtifactKind} {artifact twin : Artifact kind}
    (h : twin.sansVersion = artifact.sansVersion) : artifact.Twin twin :=
  ⟨twin.metadata.resourceVersion,
    congrArg (·.withVersion twin.metadata.resourceVersion) h⟩

theorem Artifact.Twin.sansVersion_eq {kind : ArtifactKind} {artifact twin : Artifact kind}
    (h : artifact.Twin twin) : twin.sansVersion = artifact.sansVersion := by
  obtain ⟨version, rfl⟩ := h
  rfl

namespace Cluster

/-! ## Shares -/

/-- Two clusters agree, up to versions, on the share of a source. -/
structure SameShare (base : ClusterConfig) (cluster twin : Cluster) : Prop where
  namespaces : twin.namespaces = cluster.namespaces
  source : (twin.sources[base.metadata.key]?).map ClusterConfig.sansVersion =
    (cluster.sources[base.metadata.key]?).map ClusterConfig.sansVersion
  copies : ∀ ns : String,
    ((twin.artifacts base.spec.kind)[(⟨ns, base.metadata.anyName⟩ : ObjectKey)]?).map
        Artifact.sansVersion =
      ((cluster.artifacts base.spec.kind)[(⟨ns, base.metadata.anyName⟩ : ObjectKey)]?).map
        Artifact.sansVersion

namespace SameShare

variable {base : ClusterConfig} {cluster twin : Cluster}

theorem refl (base : ClusterConfig) (cluster : Cluster) : SameShare base cluster cluster :=
  ⟨rfl, rfl, fun _ => rfl⟩

theorem source_eq_none (h : SameShare base cluster twin) :
    twin.sources[base.metadata.key]? = none ↔ cluster.sources[base.metadata.key]? = none := by
  rw [← Option.map_eq_none_iff, h.source, Option.map_eq_none_iff]

theorem source_of_stored (h : SameShare base cluster twin) {stored : ClusterConfig}
    (hstored : cluster.sources[base.metadata.key]? = some stored) :
    ∃ other, twin.sources[base.metadata.key]? = some other ∧ stored.Twin other := by
  have hsource := h.source
  rw [hstored, Option.map_some, Option.map_eq_some_iff] at hsource
  obtain ⟨other, hother, heq⟩ := hsource
  exact ⟨other, hother, .of_sansVersion heq⟩

theorem copies_eq_none (h : SameShare base cluster twin) {place : ObjectKey}
    (hname : place.name = base.metadata.anyName) :
    (twin.artifacts base.spec.kind)[place]? = none ↔
      (cluster.artifacts base.spec.kind)[place]? = none := by
  have hcopies := h.copies place.ns
  rw [← hname] at hcopies
  rw [← Option.map_eq_none_iff, hcopies, Option.map_eq_none_iff]

theorem copies_of_found (h : SameShare base cluster twin) {place : ObjectKey}
    (hname : place.name = base.metadata.anyName) {artifact : Artifact base.spec.kind}
    (found : (cluster.artifacts base.spec.kind)[place]? = some artifact) :
    ∃ other, (twin.artifacts base.spec.kind)[place]? = some other ∧ artifact.Twin other := by
  have hcopies := h.copies place.ns
  rw [← hname, found, Option.map_some, Option.map_eq_some_iff] at hcopies
  obtain ⟨other, hother, heq⟩ := hcopies
  exact ⟨other, hother, .of_sansVersion heq⟩

/-! ## Writes to both clusters -/

theorem writeSource (h : SameShare base cluster twin) {after later : Cluster}
    (namespaces : after.namespaces = cluster.namespaces)
    (namespaces' : later.namespaces = twin.namespaces)
    (artifacts : ∀ kind, after.artifacts kind = cluster.artifacts kind)
    (artifacts' : ∀ kind, later.artifacts kind = twin.artifacts kind)
    (source : (later.sources[base.metadata.key]?).map ClusterConfig.sansVersion =
      (after.sources[base.metadata.key]?).map ClusterConfig.sansVersion) :
    SameShare base after later where
  namespaces := by rw [namespaces, namespaces', h.namespaces]
  source := source
  copies ns := by rw [artifacts, artifacts', h.copies]

theorem putArtifact (h : SameShare base cluster twin) {kind : ArtifactKind}
    (hkind : kind = base.spec.kind) {artifact other : Artifact kind} (htwin : artifact.Twin other) :
    SameShare base (cluster.putArtifact artifact) (twin.putArtifact other) where
  namespaces := by rw [namespaces_putArtifact, namespaces_putArtifact, h.namespaces]
  source := by rw [sources_putArtifact, sources_putArtifact, h.source]
  copies ns := by
    subst hkind
    have hkey : other.metadata.key = artifact.metadata.key := by
      obtain ⟨version, rfl⟩ := htwin
      rfl
    rw [artifacts_putArtifact, artifacts_putArtifact, hkey]
    split
    · exact congrArg some htwin.sansVersion_eq
    · exact h.copies ns

theorem removeArtifact (h : SameShare base cluster twin) {kind : ArtifactKind}
    (hkind : kind = base.spec.kind) (place : ObjectKey) :
    SameShare base (cluster.removeArtifact kind place) (twin.removeArtifact kind place) where
  namespaces := by rw [namespaces_removeArtifact, namespaces_removeArtifact, h.namespaces]
  source := by rw [sources_removeArtifact, sources_removeArtifact, h.source]
  copies ns := by
    subst hkind
    rw [artifacts_removeArtifact, artifacts_removeArtifact]
    split
    · rfl
    · exact h.copies ns

/-! ## Calls in both clusters -/

/-- Two calls are answered alike, and the clusters go on to agree on the share. -/
def Answered (base : ClusterConfig) (cluster twin : Cluster) (request other : StoreCall) : Prop :=
  request.Agree other (cluster.answer request).1 (twin.answer other).1 ∧
    SameShare base (cluster.answer request).2 (twin.answer other).2

theorem fail (h : SameShare base cluster twin) {request other : StoreCall} {error : Error}
    (ha : cluster.answer request = (.error error, cluster))
    (ha' : twin.answer other = (.error error, twin)) :
    Answered base cluster twin request other := by
  rw [Answered, ha, ha']
  exact ⟨.failed error, h⟩

theorem updateSource (h : SameShare base cluster twin) {source other : ClusterConfig}
    (alike : source.bare = base.bare) (htwin : source.Twin other)
    (version : ∀ stored, cluster.sources[base.metadata.key]? = some stored →
      stored.metadata.resourceVersion = source.metadata.resourceVersion)
    (version' : ∀ stored, twin.sources[base.metadata.key]? = some stored →
      stored.metadata.resourceVersion = other.metadata.resourceVersion) :
    Answered base cluster twin (.updateSource source) (.updateSource other) := by
  have hkey := ClusterConfig.key_of_alike alike
  have hother : other.metadata.key = base.metadata.key := by
    obtain ⟨version, rfl⟩ := htwin
    exact hkey
  cases hstored : cluster.sources[base.metadata.key]? with
  | none =>
    have hnone := h.source_eq_none.mpr hstored
    rw [← hkey] at hstored
    rw [← hother] at hnone
    refine h.fail (answer_updateSource_missing hstored) ?_
    rw [answer_updateSource_missing hnone, hother, hkey]
  | some stored =>
    obtain ⟨stored', hstored', hsame⟩ := h.source_of_stored hstored
    have ha := answer_updateSource (by rw [hkey]; exact hstored) (version stored hstored)
    have ha' := answer_updateSource (by rw [hother]; exact hstored') (version' stored' hstored')
    rw [Answered, ha, ha']
    obtain ⟨seen, rfl⟩ := hsame
    obtain ⟨given, rfl⟩ := htwin
    refine ⟨.updated ⟨_, rfl⟩, h.writeSource (namespaces_replaceSource ..)
      (namespaces_replaceSource ..) (fun _ => artifacts_replaceSource ..)
      (fun _ => artifacts_replaceSource ..) ?_⟩
    rw [sources_replaceSource, sources_replaceSource, if_pos hkey, if_pos hother]
    show Option.map _
        (if (source.isDeleting && source.metadata.held.isEmpty) = true then none else some _) =
      Option.map _
        (if (source.isDeleting && source.metadata.held.isEmpty) = true then none else some _)
    split <;> rfl

theorem updateStatus (h : SameShare base cluster twin) {source other : ClusterConfig}
    (alike : source.bare = base.bare) (htwin : source.Twin other) :
    Answered base cluster twin (.updateStatus source) (.updateStatus other) := by
  have hkey := ClusterConfig.key_of_alike alike
  have hother : other.metadata.key = base.metadata.key := by
    obtain ⟨version, rfl⟩ := htwin
    exact hkey
  cases hstored : cluster.sources[base.metadata.key]? with
  | none =>
    have hnone := h.source_eq_none.mpr hstored
    rw [← hkey] at hstored
    rw [← hother] at hnone
    refine h.fail (answer_updateStatus_missing hstored) ?_
    rw [answer_updateStatus_missing hnone, hother, hkey]
  | some stored =>
    obtain ⟨stored', hstored', hsame⟩ := h.source_of_stored hstored
    have ha := answer_updateStatus (by rw [hkey]; exact hstored)
    have ha' := answer_updateStatus (by rw [hother]; exact hstored')
    rw [Answered, ha, ha']
    obtain ⟨seen, rfl⟩ := hsame
    obtain ⟨given, rfl⟩ := htwin
    refine ⟨.recorded ⟨_, rfl⟩, h.writeSource rfl rfl (fun _ => artifacts_putSource ..)
      (fun _ => artifacts_putSource ..) ?_⟩
    rw [sources_putSource, sources_putSource, if_pos hkey, if_pos hother]
    rfl

theorem getSource (h : SameShare base cluster twin)
    (hsame : twin.sources[base.metadata.key]? = cluster.sources[base.metadata.key]?) :
    Answered base cluster twin (.getSource base.metadata.key) (.getSource base.metadata.key) := by
  cases hstored : cluster.sources[base.metadata.key]? with
  | none =>
    have missing := hsame.trans hstored
    exact h.fail (answer_getSource_missing hstored) (answer_getSource_missing missing)
  | some stored =>
    rw [Answered, answer_getSource hstored, answer_getSource (by rw [hsame, hstored])]
    exact ⟨.fetched stored, h⟩

theorem getArtifact (h : SameShare base cluster twin) {place : ObjectKey}
    (hname : place.name = base.metadata.anyName) :
    Answered base cluster twin (.getArtifact base.spec.kind place)
      (.getArtifact base.spec.kind place) := by
  rw [Answered, answer_getArtifact, answer_getArtifact]
  cases found : (cluster.artifacts base.spec.kind)[place]? with
  | none =>
    have missing := (h.copies_eq_none hname).mpr found
    simp only [find, found, missing]
    exact ⟨.failed _, h⟩
  | some artifact =>
    obtain ⟨other, hother, htwin⟩ := h.copies_of_found hname found
    simp only [find, found, hother]
    exact ⟨.found htwin, h⟩

theorem createArtifact (h : SameShare base cluster twin) {artifact : Artifact base.spec.kind}
    (hname : artifact.metadata.key.name = base.metadata.anyName) :
    Answered base cluster twin (.createArtifact base.spec.kind artifact)
      (.createArtifact base.spec.kind artifact) := by
  by_cases live : artifact.metadata.key.ns ∈ cluster.namespaces
  · have live' : artifact.metadata.key.ns ∈ twin.namespaces := by rwa [h.namespaces]
    cases found : (cluster.artifacts base.spec.kind)[artifact.metadata.key]? with
    | none =>
      have missing := (h.copies_eq_none hname).mpr found
      rw [Answered, answer_createArtifact found live, answer_createArtifact missing live']
      exact ⟨.created, h.putArtifact rfl ⟨_, rfl⟩⟩
    | some old =>
      obtain ⟨other, hother, -⟩ := h.copies_of_found hname found
      exact h.fail (answer_createArtifact_taken live found)
        (answer_createArtifact_taken live' hother)
  · have homeless : artifact.metadata.key.ns ∉ twin.namespaces := by rwa [h.namespaces]
    exact h.fail (answer_createArtifact_homeless live) (answer_createArtifact_homeless homeless)

theorem replaceArtifact (h : SameShare base cluster twin)
    {artifact other stored stored' : Artifact base.spec.kind} (htwin : artifact.Twin other)
    (found : (cluster.artifacts base.spec.kind)[artifact.metadata.key]? = some stored)
    (version : stored.metadata.resourceVersion = artifact.metadata.resourceVersion)
    (found' : (twin.artifacts base.spec.kind)[other.metadata.key]? = some stored')
    (version' : stored'.metadata.resourceVersion = other.metadata.resourceVersion) :
    Answered base cluster twin (.replaceArtifact base.spec.kind artifact)
      (.replaceArtifact base.spec.kind other) := by
  rw [Answered, answer_replaceArtifact found version, answer_replaceArtifact found' version']
  exact ⟨.replaced, h.putArtifact rfl htwin⟩

theorem deleteArtifact (h : SameShare base cluster twin) {place : ObjectKey}
    (hname : place.name = base.metadata.anyName) :
    Answered base cluster twin (.deleteArtifact base.spec.kind place)
      (.deleteArtifact base.spec.kind place) := by
  cases found : (cluster.artifacts base.spec.kind)[place]? with
  | none =>
    have missing := (h.copies_eq_none hname).mpr found
    exact h.fail (answer_deleteArtifact_missing found) (answer_deleteArtifact_missing missing)
  | some artifact =>
    obtain ⟨other, hother, -⟩ := h.copies_of_found hname found
    rw [Answered, answer_deleteArtifact found, answer_deleteArtifact hother]
    exact ⟨.deleted, h.removeArtifact rfl place⟩

/-- Calls that two rounds make for the same source, from what they know, are answered alike. -/
theorem step (h : SameShare base cluster twin) {known other : Knowledge}
    (current : known.Current base cluster) (current' : other.Current base twin)
    (untouched : known = {} →
      twin.sources[base.metadata.key]? = cluster.sources[base.metadata.key]?)
    {request request' : StoreCall} (warranted : Warranted base.metadata.key known request)
    (warranted' : Warranted base.metadata.key other request') (htwin : request.Twin request') :
    Answered base cluster twin request request' := by
  cases htwin with
  | getSource key =>
    cases warranted with
    | fetch hnothing => exact h.getSource (untouched hnothing)
  | @updateSource source source' hsource =>
    refine h.updateSource (current.alike_of_warranted (.inl warranted)) hsource ?_ ?_
    · exact current.version_of_warranted warranted
    · exact current'.version_of_warranted warranted'
  | updateStatus hsource =>
    exact h.updateStatus (current.alike_of_warranted (.inr warranted)) hsource
  | listNamespaces =>
    have ha : ∀ cluster : Cluster,
        cluster.answer .listNamespaces = (.ok cluster.namespaces, cluster) := fun _ => rfl
    rw [Answered, ha, ha, h.namespaces]
    exact ⟨.listed _, h⟩
  | getArtifact kind place =>
    cases warranted with
    | look hhand =>
      have alike := (current.hand _ hhand).1
      rw [ClusterConfig.kind_of_alike alike]
      exact h.getArtifact (ClusterConfig.anyName_of_alike alike)
  | createArtifact kind artifact =>
    cases warranted with
    | create _ hhand =>
      have alike := (current.hand _ hhand).1
      rw [ClusterConfig.kind_of_alike alike]
      exact h.createArtifact (ClusterConfig.anyName_of_alike alike)
  | replaceArtifact hartifact =>
    obtain ⟨hkind, -, stored, found, version, -⟩ := current.found_of_warranted warranted
    obtain ⟨-, -, stored', found', version', -⟩ := current'.found_of_warranted warranted'
    subst hkind
    exact h.replaceArtifact hartifact found version found' version'
  | deleteArtifact kind place =>
    cases warranted with
    | take hhand =>
      have alike := (current.hand _ hhand).1
      rw [ClusterConfig.kind_of_alike alike]
      exact h.deleteArtifact (ClusterConfig.anyName_of_alike alike)

end SameShare

end Cluster

end ConfigFanout
