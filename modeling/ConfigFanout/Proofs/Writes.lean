import Mathlib.Logic.Relation
import Std.Data.String.ToNat
import ConfigFanout.Proofs.Calls

-- Clusters that others write to as well. Whoever writes, each object that is put somewhere gets
-- a version that no object had before, so a copy of an object is as good as the object for as
-- long as one of its version is stored.
namespace ConfigFanout

/-- No version that is given out after some other one is that of the metadata. -/
def Metadata.Dated (metadata : Metadata) (version : Nat) : Prop :=
  ∀ later, metadata.resourceVersion = some (toString later) → later ≤ version

namespace Metadata

variable {metadata : Metadata} {version : Nat}

theorem Dated.mono (h : metadata.Dated version) {next : Nat} (hle : version ≤ next) :
    metadata.Dated next :=
  fun later hlater => Nat.le_trans (h later hlater) hle

theorem dated_of_version (h : metadata.resourceVersion = some (toString version)) :
    metadata.Dated version := by
  intro later hlater
  rw [h, Option.some.injEq] at hlater
  exact Nat.le_of_eq (Nat.repr_injective hlater.symm)

/-- A version that is given out later is another one. -/
theorem Dated.version_ne (h : metadata.Dated version) {other : Metadata} {next : Nat}
    (hother : other.resourceVersion = some (toString next)) (hlt : version < next) :
    other.resourceVersion ≠ metadata.resourceVersion := by
  intro heq
  have hle := h next (heq ▸ hother)
  omega

end Metadata

namespace Cluster

/-! ## Writes -/

/-- One write to a cluster, by whomever. -/
inductive Write (cluster : Cluster) : Cluster → Prop
  | putSource (source : ClusterConfig) :
    Write cluster (cluster.putSource source.metadata.key source)
  | removeSource (key : ObjectKey) : Write cluster (cluster.removeSource key)
  | putArtifact {kind : ArtifactKind} (artifact : Artifact kind) :
    Write cluster (cluster.putArtifact artifact)
  | removeArtifact (kind : ArtifactKind) (key : ObjectKey) :
    Write cluster (cluster.removeArtifact kind key)
  | setNamespaces (namespaces : List String) : Write cluster { cluster with namespaces }

/-- Any number of writes lead from one cluster to another. -/
abbrev Written : Cluster → Cluster → Prop :=
  Relation.ReflTransGen Write

/-- No object is of a version that has yet to be given out. -/
structure Dated (cluster : Cluster) : Prop where
  sources : ∀ (key : ObjectKey) (source : ClusterConfig), cluster.sources[key]? = some source →
    source.metadata.Dated cluster.version
  artifacts : ∀ kind (key : ObjectKey) (artifact : Artifact kind),
    (cluster.artifacts kind)[key]? = some artifact → artifact.metadata.Dated cluster.version

theorem dated_empty (namespaces : List String) : ({ namespaces } : Cluster).Dated := by
  constructor
  · intro key source h
    simp at h
  · intro kind key artifact h
    cases kind <;> simp [artifacts] at h

/-- What a write makes of what is stored at some place. -/
inductive Turns {α : Type} (before after : Cluster) (metadata : α → Metadata) :
    Option α → Option α → Prop
  | keep {found : Option α} : Turns before after metadata found found
  | remove {found : Option α} : Turns before after metadata found none
  | put {found : Option α} {object : α} :
    (metadata object).resourceVersion = some (toString before.nextVersion) →
    after.version = before.nextVersion → Turns before after metadata found (some object)

/-- A copy of an object that was stored at some place: if what is there now is of the same
version, then it is the same. -/
structure Faithful {α : Type} (cluster : Cluster) (metadata : α → Metadata) (found : Option α)
    (copy : α) : Prop where
  dated : (metadata copy).Dated cluster.version
  same : ∀ object, found = some object →
    (metadata object).resourceVersion = (metadata copy).resourceVersion → object = copy

section

variable {α : Type} {before after : Cluster} {metadata : α → Metadata} {found next : Option α}
  {copy : α}

theorem Faithful.of_found (hfound : found = some copy)
    (dated : (metadata copy).Dated after.version) : after.Faithful metadata found copy := by
  refine ⟨dated, fun object hobject _ => ?_⟩
  rw [hfound] at hobject
  exact (Option.some.inj hobject).symm

theorem Faithful.turn (h : before.Faithful metadata found copy)
    (hturn : Turns before after metadata found next) (hle : before.version ≤ after.version) :
    after.Faithful metadata next copy := by
  refine ⟨h.dated.mono hle, ?_⟩
  cases hturn with
  | keep => exact h.same
  | remove => simp
  | put hversion hnext =>
    intro object hobject heq
    cases hobject
    exact absurd heq (h.dated.version_ne hversion (Nat.lt_succ_self _))

theorem Turns.dated (hturn : Turns before after metadata found next)
    (hle : before.version ≤ after.version)
    (dated : ∀ object, found = some object → (metadata object).Dated before.version) :
    ∀ object, next = some object → (metadata object).Dated after.version := by
  intro object hobject
  cases hturn with
  | keep => exact (dated object hobject).mono hle
  | remove => cases hobject
  | put hversion hnext =>
    cases hobject
    rw [hnext]
    exact Metadata.dated_of_version hversion

end

namespace Write

variable {before after : Cluster}

theorem version_le (h : before.Write after) : before.version ≤ after.version := by
  cases h with
  | putSource source => exact Nat.le_succ _
  | putArtifact artifact => exact Nat.le_succ _
  | removeArtifact kind key => cases kind <;> exact Nat.le_refl _
  | removeSource key => exact Nat.le_refl _
  | setNamespaces namespaces => exact Nat.le_refl _

theorem keyed (h : before.Write after) (keyed : before.WellKeyed) : after.WellKeyed := by
  cases h with
  | putSource source => exact keyed.putSource source
  | removeSource key => exact keyed.removeSource key
  | putArtifact artifact => exact keyed.putArtifact artifact
  | removeArtifact kind key => exact keyed.removeArtifact kind key
  | setNamespaces namespaces =>
    exact ⟨keyed.sources, fun kind => by cases kind <;> exact keyed.artifacts _⟩

theorem sources (h : before.Write after) (key : ObjectKey) :
    Turns before after ClusterConfig.metadata before.sources[key]? after.sources[key]? := by
  cases h with
  | putSource source =>
    rw [sources_putSource]
    split
    · exact .put rfl rfl
    · exact .keep
  | removeSource other =>
    rw [sources_removeSource]
    split
    · exact .remove
    · exact .keep
  | putArtifact artifact =>
    rw [sources_putArtifact]
    exact .keep
  | removeArtifact kind key =>
    rw [sources_removeArtifact]
    exact .keep
  | setNamespaces namespaces => exact .keep

theorem artifacts (h : before.Write after) (kind : ArtifactKind) (key : ObjectKey) :
    Turns before after Artifact.metadata (before.artifacts kind)[key]?
      (after.artifacts kind)[key]? := by
  cases h with
  | putSource source =>
    rw [artifacts_putSource]
    exact .keep
  | removeSource other =>
    rw [artifacts_removeSource]
    exact .keep
  | @putArtifact other artifact =>
    by_cases hkind : kind = other
    · subst hkind
      rw [artifacts_putArtifact]
      split
      · exact .put rfl rfl
      · exact .keep
    · rw [artifacts_putArtifact_ne _ hkind]
      exact .keep
  | removeArtifact other place =>
    by_cases hkind : kind = other
    · subst hkind
      rw [artifacts_removeArtifact]
      split
      · exact .remove
      · exact .keep
    · rw [artifacts_removeArtifact_ne _ hkind]
      exact .keep
  | setNamespaces namespaces => cases kind <;> exact .keep

theorem dated (h : before.Write after) (dated : before.Dated) : after.Dated where
  sources key source := (h.sources key).dated h.version_le (dated.sources key) source
  artifacts kind key artifact :=
    (h.artifacts kind key).dated h.version_le (dated.artifacts kind key) artifact

end Write

@[simp] theorem version_replaceSource (cluster : Cluster) (source : ClusterConfig) :
    (cluster.replaceSource source).version = cluster.nextVersion := by
  unfold replaceSource
  split <;> rfl

/-! ## Calls that succeed -/

/-- What a call gives that succeeds, and the cluster that it leaves. -/
inductive Grants (cluster : Cluster) : (request : StoreCall) → request.Answer → Cluster → Prop
  | getSource {key : ObjectKey} {source : ClusterConfig} : cluster.sources[key]? = some source →
    Grants cluster (.getSource key) source cluster
  | updateSource {source stored : ClusterConfig} :
    cluster.sources[source.metadata.key]? = some stored →
    stored.metadata.resourceVersion = source.metadata.resourceVersion →
    Grants cluster (.updateSource source)
      ({ source with status := stored.status }.atVersion cluster.nextVersion)
      (cluster.replaceSource { source with status := stored.status })
  | updateStatus {source stored : ClusterConfig} :
    cluster.sources[source.metadata.key]? = some stored →
    Grants cluster (.updateStatus source)
      ({ stored with status := source.status }.atVersion cluster.nextVersion)
      (cluster.putSource source.metadata.key { stored with status := source.status })
  | listNamespaces : Grants cluster .listNamespaces cluster.namespaces cluster
  | getArtifact {kind : ArtifactKind} {key : ObjectKey} {artifact : Artifact kind} :
    (cluster.artifacts kind)[key]? = some artifact →
    Grants cluster (.getArtifact kind key) artifact cluster
  | createArtifact {kind : ArtifactKind} {artifact : Artifact kind} :
    (cluster.artifacts kind)[artifact.metadata.key]? = none →
    artifact.metadata.key.ns ∈ cluster.namespaces →
    Grants cluster (.createArtifact kind artifact) (artifact.atVersion cluster.nextVersion)
      (cluster.putArtifact artifact)
  | replaceArtifact {kind : ArtifactKind} {artifact stored : Artifact kind} :
    (cluster.artifacts kind)[artifact.metadata.key]? = some stored →
    stored.metadata.resourceVersion = artifact.metadata.resourceVersion →
    Grants cluster (.replaceArtifact kind artifact) (artifact.atVersion cluster.nextVersion)
      (cluster.putArtifact artifact)
  | deleteArtifact {kind : ArtifactKind} {key : ObjectKey} {artifact : Artifact kind} :
    (cluster.artifacts kind)[key]? = some artifact →
    Grants cluster (.deleteArtifact kind key) () (cluster.removeArtifact kind key)

variable {cluster after : Cluster}

theorem find_bind_eq_ok {α β : Type} {objects : ObjectMap α} {kind : ResourceKind}
    {key : ObjectKey} {next : α → Except Error β} {result : β}
    (h : find objects kind key >>= next = .ok result) :
    ∃ object, objects[key]? = some object ∧ next object = .ok result := by
  unfold find at h
  split at h
  · next object found => exact ⟨object, found, h⟩
  · cases h

theorem perform_of_answer {request : StoreCall} {value : request.Answer}
    (h : cluster.answer request = (.ok value, after)) :
    cluster.perform request = .ok (value, after) := by
  unfold answer at h
  split at h
  · next hperform =>
    cases h
    exact hperform
  · cases h

/-- A call that succeeds has found what it needs. -/
theorem grants_of_answer {request : StoreCall} {value : request.Answer}
    (h : cluster.answer request = (.ok value, after)) : cluster.Grants request value after := by
  have hperform := perform_of_answer h
  cases request with
  | getSource key =>
    obtain ⟨source, hstored, hnext⟩ := find_bind_eq_ok hperform
    cases hnext
    exact .getSource hstored
  | updateSource source =>
    obtain ⟨stored, hstored, hnext⟩ := find_bind_eq_ok hperform
    by_cases version : stored.metadata.resourceVersion = source.metadata.resourceVersion
    · rw [answer_updateSource hstored version] at h
      cases h
      exact .updateSource hstored version
    · rw [if_pos version] at hnext
      cases hnext
  | updateStatus source =>
    obtain ⟨stored, hstored, hnext⟩ := find_bind_eq_ok hperform
    cases hnext
    exact .updateStatus hstored
  | listNamespaces =>
    cases hperform
    exact .listNamespaces
  | getArtifact kind key =>
    obtain ⟨artifact, hfound, hnext⟩ := find_bind_eq_ok hperform
    cases hnext
    exact .getArtifact hfound
  | createArtifact kind artifact =>
    obtain ⟨missing, live⟩ := answer_createArtifact_eq_ok h
    rw [answer_createArtifact missing live] at h
    cases h
    exact .createArtifact missing live
  | replaceArtifact kind artifact =>
    obtain ⟨stored, hstored, hnext⟩ := find_bind_eq_ok hperform
    by_cases version : stored.metadata.resourceVersion = artifact.metadata.resourceVersion
    · rw [answer_replaceArtifact hstored version] at h
      cases h
      exact .replaceArtifact hstored version
    · rw [if_pos version] at hnext
      cases hnext
  | deleteArtifact kind key =>
    cases hfound : (cluster.artifacts kind)[key]? with
    | none => simp [perform, deleteArtifact, find, hfound, bind, Except.bind, Functor.discard,
        Functor.mapConst, Except.map] at hperform
    | some artifact =>
      rw [answer_deleteArtifact hfound] at h
      cases h
      exact .deleteArtifact hfound

/-- Each call makes some writes, or none. -/
theorem Grants.written {request : StoreCall} {value : request.Answer}
    (h : cluster.Grants request value after) (keyed : cluster.WellKeyed) :
    cluster.Written after := by
  cases h with
  | getSource | listNamespaces | getArtifact => exact .refl
  | @updateSource source stored hstored version =>
    unfold replaceSource
    split
    · exact .tail (.single (.putSource { source with status := stored.status }))
        (.removeSource _)
    · exact .single (.putSource { source with status := stored.status })
  | @updateStatus source stored hstored =>
    rw [← keyed.sources _ stored hstored]
    exact .single (.putSource { stored with status := source.status })
  | createArtifact | replaceArtifact => exact .single (.putArtifact _)
  | deleteArtifact => exact .single (.removeArtifact _ _)

/-- The calls that write the artifact at a place. -/
inductive Touches (kind : ArtifactKind) (place : ObjectKey) : StoreCall → Prop
  | create {artifact : Artifact kind} : artifact.metadata.key = place →
    Touches kind place (.createArtifact kind artifact)
  | replace {artifact : Artifact kind} : artifact.metadata.key = place →
    Touches kind place (.replaceArtifact kind artifact)
  | delete : Touches kind place (.deleteArtifact kind place)

theorem Grants.artifact_eq {request : StoreCall} {value : request.Answer}
    (h : cluster.Grants request value after) {kind : ArtifactKind} {place : ObjectKey}
    (untouched : ¬ Touches kind place request) :
    (after.artifacts kind)[place]? = (cluster.artifacts kind)[place]? := by
  cases h with
  | getSource | listNamespaces | getArtifact => rfl
  | updateSource => rw [artifacts_replaceSource]
  | updateStatus => rw [artifacts_putSource]
  | @createArtifact other artifact | @replaceArtifact other artifact =>
    by_cases hkind : kind = other
    · subst hkind
      rw [artifacts_putArtifact, if_neg]
      intro hkey
      first | exact untouched (.create hkey) | exact untouched (.replace hkey)
    · rw [artifacts_putArtifact_ne _ hkind]
  | @deleteArtifact other key artifact found =>
    by_cases hkind : kind = other
    · subst hkind
      rw [artifacts_removeArtifact, if_neg]
      rintro rfl
      exact untouched .delete
    · rw [artifacts_removeArtifact_ne _ hkind]

/-- The source under a key is left as it is by all calls that are not about it. -/
theorem Grants.source_eq {request : StoreCall} {value : request.Answer}
    (h : cluster.Grants request value after) {key : ObjectKey}
    (untouched : request.subject? ≠ some (.clusterConfig, key)) :
    after.sources[key]? = cluster.sources[key]? := by
  cases h with
  | getSource | listNamespaces | getArtifact => rfl
  | updateSource =>
    rw [sources_replaceSource, if_neg]
    rintro rfl
    exact untouched rfl
  | updateStatus =>
    rw [sources_putSource, if_neg]
    rintro rfl
    exact untouched rfl
  | createArtifact | replaceArtifact => rw [sources_putArtifact]
  | deleteArtifact => rw [sources_removeArtifact]

theorem sources_answer {request : StoreCall} {key : ObjectKey}
    (untouched : request.subject? ≠ some (.clusterConfig, key)) :
    (cluster.answer request).2.sources[key]? = cluster.sources[key]? := by
  cases ha : cluster.answer request with
  | mk answer after =>
    cases answer with
    | ok value => exact (grants_of_answer ha).source_eq untouched
    | error error => rw [eq_of_answer_eq_error ha]

namespace Written

variable {before after : Cluster}

theorem keyed (h : before.Written after) (keyed : before.WellKeyed) : after.WellKeyed := by
  induction h with
  | refl => exact keyed
  | tail _ hwrite ih => exact hwrite.keyed ih

theorem dated (h : before.Written after) (dated : before.Dated) : after.Dated := by
  induction h with
  | refl => exact dated
  | tail _ hwrite ih => exact hwrite.dated ih

/-- A copy of a source stays as good as it is, whoever writes. -/
theorem faithful_source (h : before.Written after) {key : ObjectKey} {copy : ClusterConfig}
    (faithful : before.Faithful ClusterConfig.metadata before.sources[key]? copy) :
    after.Faithful ClusterConfig.metadata after.sources[key]? copy := by
  induction h with
  | refl => exact faithful
  | tail _ hwrite ih => exact ih.turn (hwrite.sources key) hwrite.version_le

theorem faithful_artifact (h : before.Written after) {kind : ArtifactKind} {key : ObjectKey}
    {copy : Artifact kind}
    (faithful : before.Faithful Artifact.metadata (before.artifacts kind)[key]? copy) :
    after.Faithful Artifact.metadata (after.artifacts kind)[key]? copy := by
  induction h with
  | refl => exact faithful
  | tail _ hwrite ih => exact ih.turn (hwrite.artifacts kind key) hwrite.version_le

end Written

/-! ## Surroundings -/

/-- A cluster in which each call may be refused as `may` allows, and to which others write as
they like after each call. -/
def shared (may : Refusal → Prop) : Surroundings Cluster where
  answers request cluster answer after :=
    ∃ between, (faulty may).answers request cluster answer between ∧ between.Written after
  records _ cluster := cluster

variable {may : Refusal → Prop}

theorem granted_or_left {request : StoreCall} {answer : Except Error request.Answer}
    (h : (faulty may).answers request cluster answer after) :
    (∃ value, answer = .ok value ∧ cluster.Grants request value after) ∨
      ∃ error, answer = .error error ∧ after = cluster := by
  rcases h with hanswer | ⟨refusal, -, rfl, rfl⟩
  · cases answer with
    | ok value => exact .inl ⟨value, rfl, grants_of_answer hanswer.symm⟩
    | error error => exact .inr ⟨error, rfl, eq_of_answer_eq_error hanswer.symm⟩
  · exact .inr ⟨_, rfl, rfl⟩

/-- A call either succeeds or leaves the cluster as it is, and then others write. -/
theorem answered_or_left {request : StoreCall} {answer : Except Error request.Answer}
    (h : (shared may).answers request cluster answer after) :
    (∃ value between, answer = .ok value ∧ cluster.answer request = (.ok value, between) ∧
      between.Written after) ∨ ∃ error, answer = .error error ∧ cluster.Written after := by
  obtain ⟨between, hanswer | ⟨refusal, -, rfl, rfl⟩, hwritten⟩ := h
  · cases answer with
    | ok value => exact .inl ⟨value, between, rfl, hanswer.symm, hwritten⟩
    | error error =>
      obtain rfl := eq_of_answer_eq_error hanswer.symm
      exact .inr ⟨error, rfl, hwritten⟩
  · exact .inr ⟨_, rfl, hwritten⟩

/-- A cluster in which others put sources, after each call the next one of a list, or none. -/
def edited : Store (Cluster × List (Option ClusterConfig)) where
  answer request state :=
    let (answer, cluster) := state.1.answer request
    match state.2 with
    | some source :: later => (answer, cluster.putSource source.metadata.key source, later)
    | none :: later => (answer, cluster, later)
    | [] => (answer, cluster, [])
  record _ state := state

theorem shared_admits_edited (may : Refusal → Prop) :
    (shared may).Admits edited Prod.fst fun _ => True where
  answers request state _ := by
    obtain ⟨cluster, edits⟩ := state
    refine ⟨(cluster.answer request).2, .inl ?_, ?_⟩
    · rcases edits with - | ⟨- | source, later⟩ <;> rfl
    · rcases edits with - | ⟨- | source, later⟩
      · exact .refl
      · exact .refl
      · exact .single (.putSource source)
  records _ _ _ := rfl
  valid_answer _ _ _ := trivial
  valid_record _ _ _ := trivial

end Cluster

end ConfigFanout
