import ConfigFanout.Proofs.Likeness
import ConfigFanout.Proofs.SecretContents
import ConfigFanout.Proofs.Writes

-- A source that is copied into Secrets fares as it would if it were copied into ConfigMaps. Texts
-- are bytes in Secrets, and no two texts are the same bytes, so every look at a copy leads the
-- same way, and every call leaves clusters that mirror each other.
namespace ConfigFanout

/-! ## Mirrors -/

/-- The source with another kind. -/
def ClusterConfig.ofKind (source : ClusterConfig) (kind : ArtifactKind) : ClusterConfig :=
  { source with spec := { source.spec with kind } }

def TextMap.utf8 (texts : TextMap String) : TextMap Text.Bytes :=
  texts.map fun _ text => Text.utf8 text

/-- A source that goes into ConfigMaps, and the one that goes into Secrets and is the same
otherwise. Both have the given key. -/
structure ClusterConfig.Mirrors (key : ObjectKey) (source mirror : ClusterConfig) : Prop where
  key_eq : source.metadata.key = key
  kind_eq : source.spec.kind = .configMap
  mirror_eq : mirror = source.ofKind .secret

/-- A Secret with the metadata of a ConfigMap and its data as UTF-8. -/
structure Artifact.Mirrors (artifact : Artifact .configMap) (mirror : Artifact .secret) : Prop where
  metadata_eq : mirror.metadata = artifact.metadata
  data_eq : mirror.data = artifact.data.map TextMap.utf8

/-- The kind that stands in for a kind in the mirror. -/
def ResourceKind.mirrored : ResourceKind → ResourceKind
  | .configMap => .secret
  | kind => kind

/-- Two errors are the same up to the kind that they name. -/
inductive Error.Mirrors : Error → Error → Prop
  | notFound (kind : ResourceKind) (key : ObjectKey) :
    Mirrors (.notFound kind key) (.notFound kind.mirrored key)
  | foreign (kind : ResourceKind) (key : ObjectKey) (owner : String) :
    Mirrors (.foreign kind key owner) (.foreign kind.mirrored key owner)
  | taken (name : String) :
    Mirrors (.store (.refused (.alreadyExists .configMap name)))
      (.store (.refused (.alreadyExists .secret name)))
  | store (fault : StoreFault) : Mirrors (.store fault) (.store fault)
  | missingMetadata (field : String) : Mirrors (.missingMetadata field) (.missingMetadata field)

/-- Two events are the same up to the kinds of their sources and the one that an error names. -/
inductive Event.Mirrors (key : ObjectKey) : Event → Event → Prop
  | same {source mirror : ClusterConfig} {severity : Severity} {reason note : String} :
    source.Mirrors key mirror →
    Mirrors key ⟨source, severity, reason, note⟩ ⟨mirror, severity, reason, note⟩
  | error {source mirror : ClusterConfig} {severity : Severity} {reason : String}
      {error fault : Error} : source.Mirrors key mirror → error.Mirrors fault →
    Mirrors key ⟨source, severity, reason, error.message⟩
      ⟨mirror, severity, reason, fault.message⟩

/-- Two calls are the same up to the kind. -/
inductive StoreCall.Mirrors (key : ObjectKey) : StoreCall → StoreCall → Prop
  | getSource : Mirrors key (.getSource key) (.getSource key)
  | updateSource {source mirror : ClusterConfig} : source.Mirrors key mirror →
    Mirrors key (.updateSource source) (.updateSource mirror)
  | updateStatus {source mirror : ClusterConfig} : source.Mirrors key mirror →
    Mirrors key (.updateStatus source) (.updateStatus mirror)
  | listNamespaces : Mirrors key .listNamespaces .listNamespaces
  | getArtifact (place : ObjectKey) :
    Mirrors key (.getArtifact .configMap place) (.getArtifact .secret place)
  | createArtifact {artifact : Artifact .configMap} {mirror : Artifact .secret} :
    artifact.Mirrors mirror →
    Mirrors key (.createArtifact .configMap artifact) (.createArtifact .secret mirror)
  | replaceArtifact {artifact : Artifact .configMap} {mirror : Artifact .secret} :
    artifact.Mirrors mirror →
    Mirrors key (.replaceArtifact .configMap artifact) (.replaceArtifact .secret mirror)
  | deleteArtifact (place : ObjectKey) :
    Mirrors key (.deleteArtifact .configMap place) (.deleteArtifact .secret place)

/-- Two calls are answered with what is the same up to the kind. -/
inductive StoreCall.Reflect (key : ObjectKey) : (request mirror : StoreCall) →
    Except Error request.Answer → Except Error mirror.Answer → Prop
  | failed {request mirror : StoreCall} {error fault : Error} : error.Mirrors fault →
    Reflect key request mirror (.error error) (.error fault)
  | fetched {source mirror : ClusterConfig} : source.Mirrors key mirror →
    Reflect key (.getSource key) (.getSource key) (.ok source) (.ok mirror)
  | updated {request asked source mirror : ClusterConfig} : source.Mirrors key mirror →
    Reflect key (.updateSource request) (.updateSource asked) (.ok source) (.ok mirror)
  | recorded {request asked source mirror : ClusterConfig} : source.Mirrors key mirror →
    Reflect key (.updateStatus request) (.updateStatus asked) (.ok source) (.ok mirror)
  | listed (live : List String) : Reflect key .listNamespaces .listNamespaces (.ok live) (.ok live)
  | found {place : ObjectKey} {artifact : Artifact .configMap} {mirror : Artifact .secret} :
    artifact.Mirrors mirror →
    Reflect key (.getArtifact .configMap place) (.getArtifact .secret place) (.ok artifact)
      (.ok mirror)
  | created {request artifact : Artifact .configMap} {asked mirror : Artifact .secret} :
    artifact.Mirrors mirror →
    Reflect key (.createArtifact .configMap request) (.createArtifact .secret asked) (.ok artifact)
      (.ok mirror)
  | replaced {request artifact : Artifact .configMap} {asked mirror : Artifact .secret} :
    artifact.Mirrors mirror →
    Reflect key (.replaceArtifact .configMap request) (.replaceArtifact .secret asked)
      (.ok artifact) (.ok mirror)
  | deleted (place : ObjectKey) :
    Reflect key (.deleteArtifact .configMap place) (.deleteArtifact .secret place) (.ok ()) (.ok ())

/-- Two clusters with the same namespaces and the same last version, where the source under a key
goes into ConfigMaps in one and into Secrets in the other, and the Secrets of this one are the
mirrors of the ConfigMaps of the other. -/
structure Cluster.Mirrors (key : ObjectKey) (cluster mirror : Cluster) : Prop where
  namespaces : mirror.namespaces = cluster.namespaces
  version : mirror.version = cluster.version
  source : Option.Rel (ClusterConfig.Mirrors key) cluster.sources[key]? mirror.sources[key]?
  artifacts : ∀ place : ObjectKey,
    Option.Rel Artifact.Mirrors (cluster.artifacts .configMap)[place]?
      (mirror.artifacts .secret)[place]?

/-- To be the same up to the kind. -/
def Likeness.mirror (key : ObjectKey) : Likeness where
  calls := StoreCall.Mirrors key
  answers := StoreCall.Reflect key
  events := Event.Mirrors key
  errors := Error.Mirrors

theorem ClusterConfig.Mirrors.exists_ofKind {key : ObjectKey} {source mirror : ClusterConfig}
    (h : source.Mirrors key mirror) : ∃ base : ClusterConfig, base.metadata.key = key ∧
      source = base.ofKind .configMap ∧ mirror = base.ofKind .secret := by
  refine ⟨source, h.key_eq, ?_, h.mirror_eq⟩
  rw [ofKind, ← h.kind_eq]

section

variable {α β : Type} {related : α → β → Prop} {other : Option β}

theorem eq_none_of_rel (h : Option.Rel related none other) : other = none := by
  cases h
  rfl

theorem exists_of_rel {value : α} (h : Option.Rel related (some value) other) :
    ∃ twin, other = some twin ∧ related value twin := by
  cases h with
  | some hrelated => exact ⟨_, rfl, hrelated⟩

end

/-! ## Texts -/

theorem TextMap.utf8_injective : Function.Injective TextMap.utf8 :=
  TextMap.map_injective fun _ _ => Text.utf8_injective

@[simp] theorem TextMap.utf8_empty : TextMap.utf8 ∅ = ∅ := by
  refine Std.ExtTreeMap.ext_getElem? fun name => ?_
  rw [utf8, Std.ExtTreeMap.getElem?_map]
  simp

theorem ArtifactKind.payload_configMap (source : ClusterConfig) :
    ArtifactKind.configMap.payload source = source.spec.data := by
  refine Std.ExtTreeMap.ext_getElem? fun name => ?_
  rw [payload, Std.ExtTreeMap.getElem?_map]
  exact congrFun Option.map_id _

namespace Artifact.Mirrors

variable {key : ObjectKey} {source : ClusterConfig} {artifact : Artifact .configMap}
variable {mirror : Artifact .secret}

theorem payload_eq (h : artifact.Mirrors mirror) : mirror.payload = artifact.payload.utf8 := by
  rw [payload, payload, h.data_eq]
  cases artifact.data with
  | none => exact TextMap.utf8_empty.symm
  | some texts => rfl

theorem atVersion (h : artifact.Mirrors mirror) (version : Nat) :
    (artifact.atVersion version).Mirrors (mirror.atVersion version) :=
  ⟨congrArg (·.atVersion version) h.metadata_eq, h.data_eq⟩

theorem owner_eq (h : artifact.Mirrors mirror) : mirror.owner? = artifact.owner? := by
  rw [owner?, owner?, h.metadata_eq]

theorem payload_secret (source : ClusterConfig) :
    ArtifactKind.secret.payload source = (ArtifactKind.configMap.payload source).utf8 := by
  rw [ArtifactKind.payload_configMap]
  rfl

theorem withPayload (h : artifact.Mirrors mirror) (source : ClusterConfig) :
    (artifact.withPayload (ArtifactKind.configMap.payload source)).Mirrors
      (mirror.withPayload (ArtifactKind.secret.payload source)) :=
  ⟨h.metadata_eq, congrArg some (payload_secret source)⟩

theorem adopt (h : artifact.Mirrors mirror) (source : ClusterConfig) :
    (artifact.adopt source).Mirrors (mirror.adopt source) := by
  refine ⟨?_, h.data_eq⟩
  rw [Artifact.adopt, Artifact.adopt, h.metadata_eq]

/-- A Secret has to change where a ConfigMap has to, and then becomes its mirror again. -/
theorem revise (h : artifact.Mirrors mirror) (source : ClusterConfig) :
    Option.Rel Artifact.Mirrors (source.revise artifact) (source.revise mirror) := by
  have hpayload : mirror.payload = ArtifactKind.secret.payload source ↔
      artifact.payload = ArtifactKind.configMap.payload source := by
    rw [h.payload_eq, payload_secret]
    exact TextMap.utf8_injective.eq_iff
  unfold ClusterConfig.revise
  dsimp only
  rw [h.owner_eq]
  split
  · exact .some ((h.adopt source).withPayload source)
  · by_cases same : artifact.payload = ArtifactKind.configMap.payload source
    · rw [if_pos same, if_pos (hpayload.mpr same)]
      exact .none
    · rw [if_neg same, if_neg (mt hpayload.mp same)]
      exact .some (h.withPayload source)

end Artifact.Mirrors

/-! ## Calls in both clusters -/

theorem StoreCall.Mirrors.error {key : ObjectKey} {request mirror : StoreCall}
    (h : request.Mirrors key mirror) (fault : StoreFault) :
    (request.error fault).Mirrors (mirror.error fault) := by
  have hfault : ∀ (kind : ResourceKind) (place : ObjectKey),
      (Error.ofFault fault kind place).Mirrors (Error.ofFault fault kind.mirrored place) := by
    intro kind place
    unfold Error.ofFault
    split
    · split
      · exact .notFound kind place
      · exact .store _
    · exact .store _
  cases h with
  | getSource => exact hfault .clusterConfig key
  | updateSource hs | updateStatus hs =>
    obtain rfl := hs.mirror_eq
    exact hfault .clusterConfig _
  | listNamespaces => exact .store fault
  | getArtifact place | deleteArtifact place => exact hfault .configMap place
  | @createArtifact artifact copy hcopy | @replaceArtifact artifact copy hcopy =>
    show (Error.ofFault fault .configMap artifact.metadata.key).Mirrors
      (Error.ofFault fault .secret copy.metadata.key)
    rw [hcopy.metadata_eq]
    exact hfault .configMap _

namespace Cluster.Mirrors

variable {key : ObjectKey} {cluster mirror : Cluster}

theorem start (key : ObjectKey) (namespaces : List String) :
    ({ namespaces } : Cluster).Mirrors key { namespaces } where
  namespaces := rfl
  version := rfl
  source := by
    simp only [Std.ExtTreeMap.getElem?_empty]
    exact .none
  artifacts place := by
    have hnone : ∀ kind, (({ namespaces } : Cluster).artifacts kind)[place]? = none := by
      rintro (_ | _) <;> exact Std.ExtTreeMap.getElem?_empty
    rw [hnone, hnone]
    exact .none

theorem nextVersion_eq (h : cluster.Mirrors key mirror) :
    mirror.nextVersion = cluster.nextVersion :=
  congrArg (· + 1) h.version

theorem source_missing (h : cluster.Mirrors key mirror) (missing : cluster.sources[key]? = none) :
    mirror.sources[key]? = none :=
  eq_none_of_rel (missing ▸ h.source)

theorem source_stored (h : cluster.Mirrors key mirror) {source : ClusterConfig}
    (stored : cluster.sources[key]? = some source) :
    ∃ twin, mirror.sources[key]? = some twin ∧ source.Mirrors key twin :=
  exists_of_rel (stored ▸ h.source)

theorem artifact_missing (h : cluster.Mirrors key mirror) {place : ObjectKey}
    (missing : (cluster.artifacts .configMap)[place]? = none) :
    (mirror.artifacts .secret)[place]? = none :=
  eq_none_of_rel (missing ▸ h.artifacts place)

theorem artifact_found (h : cluster.Mirrors key mirror) {place : ObjectKey}
    {artifact : Artifact .configMap}
    (found : (cluster.artifacts .configMap)[place]? = some artifact) :
    ∃ twin, (mirror.artifacts .secret)[place]? = some twin ∧ artifact.Mirrors twin :=
  exists_of_rel (found ▸ h.artifacts place)

/-! What is written to both stays the same up to the kind. -/

theorem putSource (h : cluster.Mirrors key mirror) {source twin : ClusterConfig}
    (hsource : source.Mirrors key twin) :
    (cluster.putSource key source).Mirrors key (mirror.putSource key twin) where
  namespaces := h.namespaces
  version := h.nextVersion_eq
  source := by
    obtain rfl := hsource.mirror_eq
    rw [sources_putSource, sources_putSource, if_pos rfl, if_pos rfl, h.nextVersion_eq]
    exact .some ⟨hsource.key_eq, hsource.kind_eq, rfl⟩
  artifacts := h.artifacts

theorem replaceSource (h : cluster.Mirrors key mirror) {source twin : ClusterConfig}
    (hsource : source.Mirrors key twin) :
    (cluster.replaceSource source).Mirrors key (mirror.replaceSource twin) where
  namespaces := by rw [namespaces_replaceSource, namespaces_replaceSource, h.namespaces]
  version := by rw [version_replaceSource, version_replaceSource, h.nextVersion_eq]
  source := by
    obtain rfl := hsource.mirror_eq
    have hkey : (source.ofKind .secret).metadata.key = key := hsource.key_eq
    rw [sources_replaceSource, sources_replaceSource, if_pos hsource.key_eq, if_pos hkey,
      h.nextVersion_eq]
    show Option.Rel _
      (if (source.isDeleting && source.metadata.held.isEmpty) = true then none else some _)
      (if (source.isDeleting && source.metadata.held.isEmpty) = true then none else some _)
    split
    · exact .none
    · exact .some ⟨hsource.key_eq, hsource.kind_eq, rfl⟩
  artifacts place := by
    rw [artifacts_replaceSource, artifacts_replaceSource]
    exact h.artifacts place

theorem putArtifact (h : cluster.Mirrors key mirror) {artifact : Artifact .configMap}
    {twin : Artifact .secret} (hcopy : artifact.Mirrors twin) :
    (cluster.putArtifact artifact).Mirrors key (mirror.putArtifact twin) where
  namespaces := h.namespaces
  version := h.nextVersion_eq
  source := h.source
  artifacts place := by
    rw [artifacts_putArtifact, artifacts_putArtifact, hcopy.metadata_eq, h.nextVersion_eq]
    split
    · exact .some (hcopy.atVersion cluster.nextVersion)
    · exact h.artifacts place

theorem removeArtifact (h : cluster.Mirrors key mirror) (place : ObjectKey) :
    (cluster.removeArtifact .configMap place).Mirrors key
      (mirror.removeArtifact .secret place) where
  namespaces := h.namespaces
  version := h.version
  source := h.source
  artifacts other := by
    rw [artifacts_removeArtifact, artifacts_removeArtifact]
    split
    · exact .none
    · exact h.artifacts other

/-- Two calls are answered with what is the same up to the kind, and so are the clusters then. -/
def Answered (key : ObjectKey) (cluster mirror : Cluster) (request asked : StoreCall) : Prop :=
  request.Reflect key asked (cluster.answer request).1 (mirror.answer asked).1 ∧
    (cluster.answer request).2.Mirrors key (mirror.answer asked).2

variable {request asked : StoreCall}

theorem fail (h : cluster.Mirrors key mirror) {error fault : Error}
    (ha : cluster.answer request = (.error error, cluster))
    (ha' : mirror.answer asked = (.error fault, mirror)) (herror : error.Mirrors fault) :
    Answered key cluster mirror request asked := by
  rw [Answered, ha, ha']
  exact ⟨.failed herror, h⟩

theorem getSource (h : cluster.Mirrors key mirror) :
    Answered key cluster mirror (.getSource key) (.getSource key) := by
  cases stored : cluster.sources[key]? with
  | none =>
    exact h.fail (answer_getSource_missing stored)
      (answer_getSource_missing (h.source_missing stored)) (.notFound .clusterConfig key)
  | some source =>
    obtain ⟨twin, stored', hmirrors⟩ := h.source_stored stored
    rw [Answered, answer_getSource stored, answer_getSource stored']
    exact ⟨.fetched hmirrors, h⟩

theorem updateSource (h : cluster.Mirrors key mirror) {source twin : ClusterConfig}
    (hsource : source.Mirrors key twin) :
    Answered key cluster mirror (.updateSource source) (.updateSource twin) := by
  obtain ⟨base, hkey, rfl, rfl⟩ := hsource.exists_ofKind
  subst hkey
  cases stored : cluster.sources[base.metadata.key]? with
  | none =>
    exact h.fail (answer_updateSource_missing stored)
      (answer_updateSource_missing (h.source_missing stored)) (.notFound .clusterConfig _)
  | some old =>
    obtain ⟨other, stored', hmirrors⟩ := h.source_stored stored
    obtain rfl := hmirrors.mirror_eq
    by_cases version : old.metadata.resourceVersion = base.metadata.resourceVersion
    · have ha := @answer_updateSource _ (base.ofKind .configMap) _ stored version
      have ha' := @answer_updateSource _ (base.ofKind .secret) _ stored' version
      rw [Answered, ha, ha', h.nextVersion_eq]
      exact ⟨.updated ⟨rfl, rfl, rfl⟩, h.replaceSource ⟨rfl, rfl, rfl⟩⟩
    · exact h.fail (answer_updateSource_conflict stored version)
        (answer_updateSource_conflict stored' version) (.store _)

theorem updateStatus (h : cluster.Mirrors key mirror) {source twin : ClusterConfig}
    (hsource : source.Mirrors key twin) :
    Answered key cluster mirror (.updateStatus source) (.updateStatus twin) := by
  obtain ⟨base, hkey, rfl, rfl⟩ := hsource.exists_ofKind
  subst hkey
  cases stored : cluster.sources[base.metadata.key]? with
  | none =>
    exact h.fail (answer_updateStatus_missing stored)
      (answer_updateStatus_missing (h.source_missing stored)) (.notFound .clusterConfig _)
  | some old =>
    obtain ⟨other, stored', hmirrors⟩ := h.source_stored stored
    obtain ⟨old, hold, rfl, rfl⟩ := hmirrors.exists_ofKind
    have ha := @answer_updateStatus _ (base.ofKind .configMap) _ stored
    have ha' := @answer_updateStatus _ (base.ofKind .secret) _ stored'
    rw [Answered, ha, ha', h.nextVersion_eq]
    exact ⟨.recorded ⟨hold, rfl, rfl⟩, h.putSource ⟨hold, rfl, rfl⟩⟩

theorem getArtifact (h : cluster.Mirrors key mirror) (place : ObjectKey) :
    Answered key cluster mirror (.getArtifact .configMap place) (.getArtifact .secret place) := by
  rw [Answered, answer_getArtifact, answer_getArtifact]
  cases found : (cluster.artifacts .configMap)[place]? with
  | none =>
    have missing := h.artifact_missing found
    simp only [find, found, missing]
    exact ⟨.failed (.notFound .configMap place), h⟩
  | some artifact =>
    obtain ⟨twin, found', hmirrors⟩ := h.artifact_found found
    simp only [find, found, found']
    exact ⟨.found hmirrors, h⟩

theorem createArtifact (h : cluster.Mirrors key mirror) {artifact : Artifact .configMap}
    {twin : Artifact .secret} (hcopy : artifact.Mirrors twin) :
    Answered key cluster mirror (.createArtifact .configMap artifact)
      (.createArtifact .secret twin) := by
  have hkey : twin.metadata.key = artifact.metadata.key := by rw [hcopy.metadata_eq]
  by_cases live : artifact.metadata.key.ns ∈ cluster.namespaces
  · have live' : twin.metadata.key.ns ∈ mirror.namespaces := by rwa [hkey, h.namespaces]
    cases found : (cluster.artifacts .configMap)[artifact.metadata.key]? with
    | none =>
      have missing : (mirror.artifacts .secret)[twin.metadata.key]? = none := by
        rw [hkey, h.artifact_missing found]
      rw [Answered, answer_createArtifact found live, answer_createArtifact missing live',
        h.nextVersion_eq]
      exact ⟨.created (hcopy.atVersion _), h.putArtifact hcopy⟩
    | some old =>
      obtain ⟨other, found', -⟩ := h.artifact_found found
      rw [← hkey] at found'
      refine h.fail (answer_createArtifact_taken live found)
        (answer_createArtifact_taken live' found') ?_
      rw [hkey]
      exact .taken _
  · have homeless : twin.metadata.key.ns ∉ mirror.namespaces := by rwa [hkey, h.namespaces]
    refine h.fail (answer_createArtifact_homeless live) (answer_createArtifact_homeless homeless) ?_
    rw [hkey]
    exact .notFound .namespace _

theorem replaceArtifact (h : cluster.Mirrors key mirror) {artifact : Artifact .configMap}
    {twin : Artifact .secret} (hcopy : artifact.Mirrors twin) :
    Answered key cluster mirror (.replaceArtifact .configMap artifact)
      (.replaceArtifact .secret twin) := by
  have hkey : twin.metadata.key = artifact.metadata.key := by rw [hcopy.metadata_eq]
  cases found : (cluster.artifacts .configMap)[artifact.metadata.key]? with
  | none =>
    have missing : (mirror.artifacts .secret)[twin.metadata.key]? = none := by
      rw [hkey, h.artifact_missing found]
    refine h.fail (answer_replaceArtifact_missing found) (answer_replaceArtifact_missing missing) ?_
    rw [hkey]
    exact .notFound .configMap _
  | some old =>
    obtain ⟨other, found', hmirrors⟩ := h.artifact_found found
    rw [← hkey] at found'
    by_cases version : old.metadata.resourceVersion = artifact.metadata.resourceVersion
    · have version' : other.metadata.resourceVersion = twin.metadata.resourceVersion := by
        rw [hmirrors.metadata_eq, hcopy.metadata_eq, version]
      rw [Answered, answer_replaceArtifact found version, answer_replaceArtifact found' version',
        h.nextVersion_eq]
      exact ⟨.replaced (hcopy.atVersion _), h.putArtifact hcopy⟩
    · have version' : other.metadata.resourceVersion ≠ twin.metadata.resourceVersion := by
        rwa [hmirrors.metadata_eq, hcopy.metadata_eq]
      refine h.fail (answer_replaceArtifact_conflict found version)
        (answer_replaceArtifact_conflict found' version') ?_
      rw [hkey]
      exact .store _

theorem deleteArtifact (h : cluster.Mirrors key mirror) (place : ObjectKey) :
    Answered key cluster mirror (.deleteArtifact .configMap place)
      (.deleteArtifact .secret place) := by
  cases found : (cluster.artifacts .configMap)[place]? with
  | none =>
    exact h.fail (answer_deleteArtifact_missing found)
      (answer_deleteArtifact_missing (h.artifact_missing found)) (.notFound .configMap place)
  | some artifact =>
    obtain ⟨twin, found', -⟩ := h.artifact_found found
    rw [Answered, answer_deleteArtifact found, answer_deleteArtifact found']
    exact ⟨.deleted place, h.removeArtifact place⟩

/-- Every call leaves clusters that mirror each other. -/
theorem answer (h : cluster.Mirrors key mirror) (hcall : request.Mirrors key asked) :
    Answered key cluster mirror request asked := by
  cases hcall with
  | getSource => exact h.getSource
  | updateSource hsource => exact h.updateSource hsource
  | updateStatus hsource => exact h.updateStatus hsource
  | listNamespaces =>
    have ha : ∀ cluster : Cluster,
        cluster.answer .listNamespaces = (.ok cluster.namespaces, cluster) := fun _ => rfl
    rw [Answered, ha, ha, h.namespaces]
    exact ⟨.listed _, h⟩
  | getArtifact place => exact h.getArtifact place
  | createArtifact hcopy => exact h.createArtifact hcopy
  | replaceArtifact hcopy => exact h.replaceArtifact hcopy
  | deleteArtifact place => exact h.deleteArtifact place

end Cluster.Mirrors

/-! ## Rounds -/

/-- Mirrors among artifacts of any kinds. -/
inductive Artifact.Reflects : {kind other : ArtifactKind} → Artifact kind → Artifact other → Prop
  | intro {artifact : Artifact .configMap} {mirror : Artifact .secret} : artifact.Mirrors mirror →
    Reflects artifact mirror

theorem Artifact.rel_reflects {artifact : Option (Artifact .configMap)}
    {mirror : Option (Artifact .secret)} (h : Option.Rel Artifact.Mirrors artifact mirror) :
    Option.Rel Artifact.Reflects artifact mirror := by
  cases h with
  | some hmirrors => exact .some ⟨hmirrors⟩
  | none => exact .none

open Program

/-- Nothing that a round looks at tells a source and its mirror apart. -/
theorem Likeness.mirror_carries (key : ObjectKey) :
    (Likeness.mirror key).Carries (ClusterConfig.Mirrors key) Artifact.Reflects where
  name_eq := by
    rintro source _ ⟨-, -, rfl⟩
    rfl
  held_eq := by
    rintro source _ ⟨-, -, rfl⟩
    rfl
  list_eq := by
    rintro source _ ⟨-, -, rfl⟩
    rfl
  status_eq := by
    rintro source _ ⟨-, -, rfl⟩
    rfl
  deleting_eq := by
    rintro source _ ⟨-, -, rfl⟩
    rfl
  missing_eq := by
    rintro _ _ ⟨⟩ <;> rfl
  unnamed := .missingMetadata "name"
  foreign := by
    intro source mirror h place owner
    obtain ⟨base, -, rfl, rfl⟩ := h.exists_ofKind
    exact .foreign .configMap place owner
  owner_eq := by
    intro source mirror copy other h hcopy
    obtain ⟨base, -, rfl, rfl⟩ := h.exists_ofKind
    obtain ⟨hmirrors⟩ := hcopy
    exact congrArg (Option.filter (· ≠ base.metadata.key)) hmirrors.owner_eq
  revise := by
    intro source mirror copy other h hcopy
    obtain ⟨base, -, rfl, rfl⟩ := h.exists_ofKind
    obtain ⟨hmirrors⟩ := hcopy
    exact Artifact.rel_reflects (hmirrors.revise base)
  list := by
    refine .call .listNamespaces fun answer reply hreflect => ?_
    cases hreflect with
    | failed herror => exact .fail herror
    | listed live => exact .pure rfl
  update := by
    intro source mirror h finalizers
    obtain ⟨base, hkey, rfl, rfl⟩ := h.exists_ofKind
    refine .call (.updateSource ⟨hkey, rfl, rfl⟩) fun answer reply hreflect => ?_
    cases hreflect with
    | failed herror => exact .fail herror
    | updated hmirrors => exact .pure hmirrors
  record := by
    intro source mirror h status
    obtain ⟨base, hkey, rfl, rfl⟩ := h.exists_ofKind
    refine .call (.updateStatus ⟨hkey, rfl, rfl⟩) fun answer reply hreflect => ?_
    cases hreflect with
    | failed herror => exact .fail herror
    | recorded hmirrors => exact .pure hmirrors
  look := by
    intro source mirror h place
    obtain ⟨base, -, rfl, rfl⟩ := h.exists_ofKind
    refine .call (.getArtifact place) fun answer reply hreflect => ?_
    cases hreflect with
    | failed herror => exact .fail herror
    | found hmirrors => exact .pure ⟨hmirrors⟩
  create := by
    intro source mirror h name ns
    obtain ⟨base, -, rfl, rfl⟩ := h.exists_ofKind
    refine .call (.createArtifact ⟨rfl, congrArg some (Artifact.Mirrors.payload_secret base)⟩)
      fun answer reply hreflect => ?_
    cases hreflect with
    | failed herror => exact .fail herror
    | created => exact .pure trivial
  replace := by
    intro source mirror copy other h hcopy
    obtain ⟨base, -, rfl, rfl⟩ := h.exists_ofKind
    obtain ⟨hmirrors⟩ := hcopy
    refine .call (.replaceArtifact hmirrors) fun answer reply hreflect => ?_
    cases hreflect with
    | failed herror => exact .fail herror
    | replaced => exact .pure trivial
  take := by
    intro source mirror h place
    obtain ⟨base, -, rfl, rfl⟩ := h.exists_ofKind
    refine .call (.deleteArtifact place) fun answer reply hreflect => ?_
    cases hreflect with
    | failed herror => exact .fail herror
    | deleted => exact .pure rfl

/-- Rounds for a source and its mirror are the same up to the kind. -/
theorem reconcile_mirrored (key : ObjectKey) :
    Alike (.mirror key) Eq (reconcile key) (reconcile key) := by
  have hfetch : Alike (.mirror key) (ClusterConfig.Mirrors key) (ask (.getSource key))
      (ask (.getSource key)) := by
    refine .call .getSource fun answer reply hreflect => ?_
    cases hreflect with
    | failed herror => exact .fail herror
    | fetched hmirrors => exact .pure hmirrors
  exact (Likeness.mirror_carries key).reconcile key hfetch id (fun h note => .same h)
    fun h _ _ herror => .error h herror

/-! ## Schedules -/

/-- Calls for one source are not about any other. -/
theorem StoreCall.Mirrors.subject_ne {key other : ObjectKey} {request asked : StoreCall}
    (h : request.Mirrors key asked) (hne : other ≠ key) :
    request.subject? ≠ some (.clusterConfig, other) ∧
      asked.subject? ≠ some (.clusterConfig, other) := by
  cases h with
  | getSource => simpa [subject?] using hne.symm
  | updateSource hs | updateStatus hs =>
    obtain ⟨base, rfl, rfl, rfl⟩ := hs.exists_ofKind
    simpa [subject?, ClusterConfig.ofKind] using hne.symm
  | listNamespaces => simp [subject?]
  | getArtifact | createArtifact | replaceArtifact | deleteArtifact =>
    simp [subject?, ArtifactKind.resource]

namespace Cluster

/-- A cluster with the number of calls so far. A call fails if a schedule has a fault for its
number. -/
def scheduled (schedule : Nat → Option StoreFault) : Store (Cluster × Nat) where
  answer request state :=
    match schedule state.2 with
    | some fault => (.error (request.error fault), state.1, state.2 + 1)
    | none => ((state.1.answer request).1, (state.1.answer request).2, state.2 + 1)
  record _ state := state

/-- Two clusters after as many calls, which mirror each other and have the other sources that they
had. -/
structure Alongside (key : ObjectKey) (cluster mirror : Cluster) (state after : Cluster × Nat) :
    Prop where
  mirrors : state.1.Mirrors key after.1
  count : after.2 = state.2
  others : ∀ other, other ≠ key → state.1.sources[other]? = cluster.sources[other]?
  othersOfMirror : ∀ other, other ≠ key → after.1.sources[other]? = mirror.sources[other]?

variable {key : ObjectKey} {cluster mirror : Cluster} {state after : Cluster × Nat}

/-- A call that fails in both clusters, or in none, leaves them like that. -/
theorem Alongside.answer (h : Alongside key cluster mirror state after)
    (schedule : Nat → Option StoreFault) {request asked : StoreCall}
    (hcall : request.Mirrors key asked) :
    request.Reflect key asked ((scheduled schedule).answer request state).1
        ((scheduled schedule).answer asked after).1 ∧
      Alongside key cluster mirror ((scheduled schedule).answer request state).2
        ((scheduled schedule).answer asked after).2 := by
  unfold scheduled
  dsimp only
  rw [h.count]
  cases schedule state.2 with
  | some fault =>
    exact ⟨.failed (hcall.error fault), h.mirrors, rfl, h.others, h.othersOfMirror⟩
  | none =>
    obtain ⟨hreflect, hmirrors⟩ := h.mirrors.answer hcall
    exact ⟨hreflect, hmirrors, rfl,
      fun other hne => (sources_answer (hcall.subject_ne hne).1).trans (h.others other hne),
      fun other hne => (sources_answer (hcall.subject_ne hne).2).trans
        (h.othersOfMirror other hne)⟩

end Cluster

/-- A round for a source that goes into Secrets makes the calls, publishes the events and has the
result of a round for one that goes into ConfigMaps, up to the kind, if the same calls fail. Both
rounds leave clusters that mirror each other, and no other source is changed. -/
theorem a_round_into_secrets_mirrors_one_into_config_maps {key : ObjectKey}
    {cluster mirror : Cluster} (h : cluster.Mirrors key mirror)
    (schedule : Nat → Option StoreFault) :
    List.Forall₂ (Likeness.mirror key).Acts
        ((reconcile key).acts (Cluster.scheduled schedule) (cluster, 0))
        ((reconcile key).acts (Cluster.scheduled schedule) (mirror, 0)) ∧
      (Likeness.mirror key).Results Eq
        ((reconcile key).run (Cluster.scheduled schedule) (cluster, 0)).1
        ((reconcile key).run (Cluster.scheduled schedule) (mirror, 0)).1 ∧
      Cluster.Alongside key cluster mirror
        ((reconcile key).run (Cluster.scheduled schedule) (cluster, 0)).2
        ((reconcile key).run (Cluster.scheduled schedule) (mirror, 0)).2 :=
  (reconcile_mirrored key).run (fun hfits hcall => hfits.answer schedule hcall)
    (fun _ _ hfits => hfits) ⟨h, rfl, fun _ _ => rfl, fun _ _ => rfl⟩

/-- A source with a text that takes more bytes than it has characters. -/
def ClusterConfig.greeting (kind : ArtifactKind) : ClusterConfig where
  metadata := { name := some "app-config", ns := some "default" }
  spec := { namespaceList := "a,b", kind, data := {("greeting", "grüße")} }

/-- An artifact of its name without labels and without data. -/
def Artifact.blank (kind : ArtifactKind) (parts : kind.Parts) : Artifact kind where
  metadata := { name := some "app-config", ns := some "a" }
  parts

def Cluster.greeting (kind : ArtifactKind) (parts : kind.Parts) : Cluster :=
  (({ namespaces := ["a", "b"] } : Cluster).putSource ⟨"default", "app-config"⟩
    (.greeting kind)).putArtifact (.blank kind parts)

/-- The seventh call fails. -/
def StoreFault.outage (call : Nat) : Option StoreFault :=
  if call = 6 then some (.refused { code := 500 }) else none

/-- The copy in the first namespace was made and the one in the second was not when the round
failed. -/
theorem a_greeting_goes_into_secrets_up_to_the_outage :
    (∃ error, ((reconcile ⟨"default", "app-config"⟩).run (Cluster.scheduled StoreFault.outage)
      (.greeting .secret {}, 0)).1 = .error error) ∧
    (∃ copy, (((reconcile ⟨"default", "app-config"⟩).run (Cluster.scheduled StoreFault.outage)
        (.greeting .secret {}, 0)).2.1.artifacts .secret)[
          (⟨"a", "app-config"⟩ : ObjectKey)]? = some copy ∧
      copy.data = some {("greeting", Text.utf8 "grüße")}) ∧
    (((reconcile ⟨"default", "app-config"⟩).run (Cluster.scheduled StoreFault.outage)
      (.greeting .secret {}, 0)).2.1.artifacts .secret)[
        (⟨"b", "app-config"⟩ : ObjectKey)]? = none := by
  have hmirrors : (Cluster.greeting .configMap {}).Mirrors ⟨"default", "app-config"⟩
      (.greeting .secret {}) := by
    have hsource : (ClusterConfig.greeting .configMap).Mirrors ⟨"default", "app-config"⟩
        (.greeting .secret) := ⟨rfl, rfl, rfl⟩
    have hcopy : (Artifact.blank .configMap {}).Mirrors (.blank .secret {}) := ⟨rfl, rfl⟩
    exact ((Cluster.Mirrors.start _ ["a", "b"]).putSource hsource).putArtifact hcopy
  obtain ⟨-, hresults, hends⟩ :=
    a_round_into_secrets_mirrors_one_into_config_maps hmirrors StoreFault.outage
  have hfails : ((reconcile ⟨"default", "app-config"⟩).run (Cluster.scheduled StoreFault.outage)
      (.greeting .configMap {}, 0)).1 = .error (.store (.refused { code := 500 })) := by
    decide +kernel
  have hcopy : (((reconcile ⟨"default", "app-config"⟩).run (Cluster.scheduled StoreFault.outage)
      (.greeting .configMap {}, 0)).2.1.artifacts .configMap)[
        (⟨"a", "app-config"⟩ : ObjectKey)]?.map Artifact.data =
          some (some {("greeting", "grüße")}) := by decide +kernel
  obtain ⟨artifact, hfound, hdata⟩ := Option.map_eq_some_iff.mp hcopy
  obtain ⟨copy, hcopied, hmirror⟩ := hends.mirrors.artifact_found hfound
  refine ⟨?_, ⟨copy, hcopied, ?_⟩, hends.mirrors.artifact_missing (by decide +kernel)⟩
  · rw [hfails] at hresults
    cases hresults with
    | error => exact ⟨_, rfl⟩
  · rw [hmirror.data_eq, hdata]
    decide +kernel

end ConfigFanout
