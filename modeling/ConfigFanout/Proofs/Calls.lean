import ConfigFanout.Proofs.Faults
import ConfigFanout.Proofs.Holdings

-- What the calls that write make of a cluster, and what taking a copy away and bringing one
-- up to date make of it. Each makes one write at most, so one that fails has changed nothing.
namespace ConfigFanout

namespace Cluster

variable {base source : ClusterConfig} {cluster : Cluster}

/-! ## Answers of the store -/

/-- The cluster with a source in place of the stored one. A source on its way out that has no
finalizers left is gone then. -/
def replaceSource (cluster : Cluster) (source : ClusterConfig) : Cluster :=
  if source.isDeleting && source.metadata.held.isEmpty then
    (cluster.putSource source.metadata.key source).removeSource source.metadata.key
  else cluster.putSource source.metadata.key source

theorem sources_replaceSource (cluster : Cluster) (source : ClusterConfig) (key : ObjectKey) :
    (cluster.replaceSource source).sources[key]? =
      if source.metadata.key = key then
        if source.isDeleting && source.metadata.held.isEmpty then none
        else some (source.atVersion cluster.nextVersion)
      else cluster.sources[key]? := by
  unfold Cluster.replaceSource
  split
  · rw [sources_removeSource, sources_putSource]
    split <;> rfl
  · exact sources_putSource ..

@[simp] theorem artifacts_replaceSource (cluster : Cluster) (source : ClusterConfig)
    (kind : ArtifactKind) : (cluster.replaceSource source).artifacts kind =
      cluster.artifacts kind := by
  unfold Cluster.replaceSource
  split
  · rw [artifacts_removeSource, artifacts_putSource]
  · exact artifacts_putSource ..

@[simp] theorem namespaces_replaceSource (cluster : Cluster) (source : ClusterConfig) :
    (cluster.replaceSource source).namespaces = cluster.namespaces := by
  unfold Cluster.replaceSource
  split <;> rfl

theorem WellKeyed.replaceSource (h : cluster.WellKeyed) (source : ClusterConfig) :
    (cluster.replaceSource source).WellKeyed := by
  unfold Cluster.replaceSource
  split
  · exact (h.putSource source).removeSource _
  · exact h.putSource source

theorem answer_getSource {key : ObjectKey} (stored : cluster.sources[key]? = some source) :
    cluster.answer (.getSource key) = (.ok source, cluster) := by
  simp only [answer, perform, find, stored, bind, Except.bind, pure, Except.pure]

theorem answer_updateSource (stored : cluster.sources[source.metadata.key]? = some base)
    (version : base.metadata.resourceVersion = source.metadata.resourceVersion) :
    cluster.answer (.updateSource source) =
      (.ok ({ source with status := base.status }.atVersion cluster.nextVersion),
        cluster.replaceSource { source with status := base.status }) := by
  have hupdate : cluster.updateSource source =
      .ok ({ source with status := base.status }.atVersion cluster.nextVersion,
        cluster.replaceSource { source with status := base.status }) := by
    unfold updateSource find replaceSource
    simp only [stored, bind, Except.bind, pure, Except.pure, version, ne_eq, not_true_eq_false,
      if_false]
    split <;> rfl
  simp only [answer, perform, hupdate]

theorem answer_updateStatus (stored : cluster.sources[source.metadata.key]? = some base) :
    cluster.answer (.updateStatus source) =
      (.ok ({ base with status := source.status }.atVersion cluster.nextVersion),
        cluster.putSource source.metadata.key { base with status := source.status }) := by
  simp only [answer, perform, updateStatus, find, stored]
  rfl

theorem answer_getArtifact (kind : ArtifactKind) (key : ObjectKey) :
    cluster.answer (.getArtifact kind key) =
      (find (cluster.artifacts kind) kind.resource key, cluster) := by
  simp only [answer, perform, find]
  cases (cluster.artifacts kind)[key]? <;> rfl

theorem answer_deleteArtifact {kind : ArtifactKind} {key : ObjectKey} {artifact : Artifact kind}
    (found : (cluster.artifacts kind)[key]? = some artifact) :
    cluster.answer (.deleteArtifact kind key) = (.ok (), cluster.removeArtifact kind key) := by
  simp only [answer, perform, deleteArtifact, find, found]
  rfl

theorem answer_replaceArtifact {kind : ArtifactKind} {artifact old : Artifact kind}
    (found : (cluster.artifacts kind)[artifact.metadata.key]? = some old)
    (version : old.metadata.resourceVersion = artifact.metadata.resourceVersion) :
    cluster.answer (.replaceArtifact kind artifact) =
      (.ok (artifact.atVersion cluster.nextVersion), cluster.putArtifact artifact) := by
  simp only [answer, perform, replaceArtifact, find, found, bind, Except.bind, version, ne_eq,
    not_true_eq_false, if_false]
  rfl

theorem answer_createArtifact {kind : ArtifactKind} {artifact : Artifact kind}
    (missing : (cluster.artifacts kind)[artifact.metadata.key]? = none)
    (live : artifact.metadata.key.ns ∈ cluster.namespaces) :
    cluster.answer (.createArtifact kind artifact) =
      (.ok (artifact.atVersion cluster.nextVersion), cluster.putArtifact artifact) := by
  have hfree : (cluster.artifacts kind).contains artifact.metadata.key = false := by
    rw [Std.ExtTreeMap.contains_eq_isSome_getElem?, missing]
    rfl
  have hlive : cluster.namespaces.contains artifact.metadata.key.ns = true := by simpa using live
  simp only [answer, perform, createArtifact, hfree, hlive]
  rfl

/-- Nothing is put into a namespace that is not there, or in place of what is. -/
theorem answer_createArtifact_eq_ok {kind : ArtifactKind} {artifact value : Artifact kind}
    {after : Cluster} (h : cluster.answer (.createArtifact kind artifact) = (.ok value, after)) :
    (cluster.artifacts kind)[artifact.metadata.key]? = none ∧
      artifact.metadata.key.ns ∈ cluster.namespaces := by
  by_cases hlive : cluster.namespaces.contains artifact.metadata.key.ns = true
  · by_cases hfree : (cluster.artifacts kind).contains artifact.metadata.key = true
    · simp only [answer, perform, createArtifact, hlive, hfree] at h
      cases h
    · rw [Std.ExtTreeMap.contains_eq_isSome_getElem?] at hfree
      exact ⟨by simpa using hfree, by simpa using hlive⟩
  · simp only [answer, perform, createArtifact, hlive] at h
    cases h

/-! Calls that find nothing, or something that they should not find, fail. -/

theorem answer_getSource_missing {key : ObjectKey} (missing : cluster.sources[key]? = none) :
    cluster.answer (.getSource key) = (.error (.notFound .clusterConfig key), cluster) := by
  simp only [answer, perform, find, missing, bind, Except.bind]

theorem answer_updateSource_missing {source : ClusterConfig}
    (missing : cluster.sources[source.metadata.key]? = none) :
    cluster.answer (.updateSource source) =
      (.error (.notFound .clusterConfig source.metadata.key), cluster) := by
  simp only [answer, perform, updateSource, find, missing, bind, Except.bind]

theorem answer_updateStatus_missing {source : ClusterConfig}
    (missing : cluster.sources[source.metadata.key]? = none) :
    cluster.answer (.updateStatus source) =
      (.error (.notFound .clusterConfig source.metadata.key), cluster) := by
  simp only [answer, perform, updateStatus, find, missing, bind, Except.bind]

theorem answer_deleteArtifact_missing {kind : ArtifactKind} {place : ObjectKey}
    (missing : (cluster.artifacts kind)[place]? = none) :
    cluster.answer (.deleteArtifact kind place) =
      (.error (.notFound kind.resource place), cluster) := by
  simp only [answer, perform, deleteArtifact, find, missing]
  rfl

theorem answer_replaceArtifact_missing {kind : ArtifactKind} {artifact : Artifact kind}
    (missing : (cluster.artifacts kind)[artifact.metadata.key]? = none) :
    cluster.answer (.replaceArtifact kind artifact) =
      (.error (.notFound kind.resource artifact.metadata.key), cluster) := by
  simp only [answer, perform, replaceArtifact, find, missing, bind, Except.bind]

theorem answer_updateSource_conflict {source stored : ClusterConfig}
    (hstored : cluster.sources[source.metadata.key]? = some stored)
    (differs : stored.metadata.resourceVersion ≠ source.metadata.resourceVersion) :
    cluster.answer (.updateSource source) =
      (.error (.store (.refused (.conflict source.metadata.key.name))), cluster) := by
  simp only [answer, perform, updateSource, find, hstored, bind, Except.bind, if_pos differs]
  rfl

theorem answer_replaceArtifact_conflict {kind : ArtifactKind} {artifact old : Artifact kind}
    (found : (cluster.artifacts kind)[artifact.metadata.key]? = some old)
    (differs : old.metadata.resourceVersion ≠ artifact.metadata.resourceVersion) :
    cluster.answer (.replaceArtifact kind artifact) =
      (.error (.store (.refused (.conflict artifact.metadata.key.name))), cluster) := by
  simp only [answer, perform, replaceArtifact, find, found, bind, Except.bind, if_pos differs]
  rfl

theorem answer_createArtifact_homeless {kind : ArtifactKind} {artifact : Artifact kind}
    (homeless : artifact.metadata.key.ns ∉ cluster.namespaces) :
    cluster.answer (.createArtifact kind artifact) =
      (.error (.notFound .namespace ⟨"", artifact.metadata.key.ns⟩), cluster) := by
  have hnot : cluster.namespaces.contains artifact.metadata.key.ns = false := by
    simpa using homeless
  simp only [answer, perform, createArtifact, hnot]
  rfl

theorem answer_createArtifact_taken {kind : ArtifactKind} {artifact old : Artifact kind}
    (live : artifact.metadata.key.ns ∈ cluster.namespaces)
    (found : (cluster.artifacts kind)[artifact.metadata.key]? = some old) :
    cluster.answer (.createArtifact kind artifact) =
      (.error (.store (.refused (.alreadyExists kind artifact.metadata.key.name))), cluster) := by
  have hlive : cluster.namespaces.contains artifact.metadata.key.ns = true := by simpa using live
  have htaken : (cluster.artifacts kind).contains artifact.metadata.key = true := by
    rw [Std.ExtTreeMap.contains_eq_isSome_getElem?, found]
    rfl
  simp only [answer, perform, createArtifact, hlive, htaken]
  rfl

/-- A call that fails changes nothing. -/
theorem eq_of_answer_eq_error {request : StoreCall} {error : Error} {after : Cluster}
    (h : cluster.answer request = (.error error, after)) : after = cluster := by
  unfold answer at h
  split at h
  · cases h
  · cases h
    rfl

/-! ## Calls that write sources -/

variable {may : Refusal → Prop}

/-- A source is put in place of the stored one, or nothing happens. -/
theorem updateSource_ensures (cluster : Cluster) (source : ClusterConfig) :
    (Program.ask (.updateSource source)).Ensures (faulty may) cluster
      (fun written after => ∃ stored, cluster.sources[source.metadata.key]? = some stored ∧
        written = { source with status := stored.status }.atVersion cluster.nextVersion ∧
        after = cluster.replaceSource { source with status := stored.status })
      fun _ after => after = cluster ∧ (Refusal.Possible may ∨
        ∀ stored, cluster.sources[source.metadata.key]? = some stored →
          stored.metadata.resourceVersion ≠ source.metadata.resourceVersion) := by
  refine Program.ensures_ask_faulty _ ?_ ?_ fun refusal hmay => ⟨rfl, .inl ⟨refusal, hmay⟩⟩
  · intro written after ha
    cases hstored : cluster.sources[source.metadata.key]? with
    | none => simp [answer, perform, updateSource, find, hstored, bind, Except.bind] at ha
    | some stored =>
      by_cases version : stored.metadata.resourceVersion = source.metadata.resourceVersion
      · rw [answer_updateSource hstored version] at ha
        cases ha
        exact ⟨stored, rfl, rfl, rfl⟩
      · simp only [answer, perform, updateSource, find, hstored, bind, Except.bind, ne_eq,
          version, not_false_eq_true, if_true] at ha
        cases ha
  · intro error after ha
    refine ⟨eq_of_answer_eq_error ha, .inr fun stored hstored version => ?_⟩
    rw [answer_updateSource hstored version] at ha
    cases ha

theorem updateStatus_ensures (cluster : Cluster) (source : ClusterConfig) :
    (Program.ask (.updateStatus source)).Ensures (faulty may) cluster
      (fun written after => ∃ stored, cluster.sources[source.metadata.key]? = some stored ∧
        written = { stored with status := source.status }.atVersion cluster.nextVersion ∧
        after = cluster.putSource source.metadata.key { stored with status := source.status })
      fun _ after => after = cluster ∧
        (Refusal.Possible may ∨ cluster.sources[source.metadata.key]? = none) := by
  refine Program.ensures_ask_faulty _ ?_ ?_ fun refusal hmay => ⟨rfl, .inl ⟨refusal, hmay⟩⟩
  · intro written after ha
    cases hstored : cluster.sources[source.metadata.key]? with
    | none => simp [answer, perform, updateStatus, find, hstored, bind, Except.bind] at ha
    | some stored =>
      rw [answer_updateStatus hstored] at ha
      cases ha
      exact ⟨stored, rfl, rfl, rfl⟩
  · intro error after ha
    refine ⟨eq_of_answer_eq_error ha, .inr ?_⟩
    cases hstored : cluster.sources[source.metadata.key]? with
    | none => rfl
    | some stored =>
      rw [answer_updateStatus hstored] at ha
      cases ha

/-! ## Copies -/

variable {kind : ArtifactKind}

/-- What becomes of a cluster when the copy of a source in some place is taken away. A lossy
store may say that there is none although there is. -/
inductive Withdrawn (lossy : Prop) (cluster : Cluster) (source : ClusterConfig)
    (kind : ArtifactKind) (place : ObjectKey) : Removal → Cluster → Prop
  | absent : (cluster.artifacts kind)[place]? = none ∨ lossy →
    Withdrawn lossy cluster source kind place .alreadyAbsent cluster
  | foreign {artifact : Artifact kind} : (cluster.artifacts kind)[place]? = some artifact →
    (artifact.otherOwner? source).isSome →
    Withdrawn lossy cluster source kind place .notOwned cluster
  | deleted {artifact : Artifact kind} : (cluster.artifacts kind)[place]? = some artifact →
    artifact.otherOwner? source = none →
    Withdrawn lossy cluster source kind place .deleted (cluster.removeArtifact kind place)

/-- What becomes of a cluster when the copy of a source in a namespace is brought up to
date. -/
inductive Synchronized (cluster : Cluster) (source : ClusterConfig) (kind : ArtifactKind)
    (place : ObjectKey) : Synced → Cluster → Prop
  | created : (cluster.artifacts kind)[place]? = none → place.ns ∈ cluster.namespaces →
    Synchronized cluster source kind place .created
      (cluster.putArtifact (source.newCopy kind place.name place.ns))
  | updated {existing revised : Artifact kind} :
    (cluster.artifacts kind)[place]? = some existing → existing.otherOwner? source = none →
    source.revise existing = some revised →
    Synchronized cluster source kind place .updated (cluster.putArtifact revised)
  | unchanged {existing : Artifact kind} : (cluster.artifacts kind)[place]? = some existing →
    existing.otherOwner? source = none → source.revise existing = none →
    Synchronized cluster source kind place .unchanged cluster

/-- Whether a source that has a name may put a copy into a place: the namespace has to be
there, and what is in the place must not belong to another source. -/
structure Receives (cluster : Cluster) (source : ClusterConfig) (kind : ArtifactKind)
    (place : ObjectKey) : Prop where
  named : source.Named
  live : (cluster.artifacts kind)[place]? = none → place.ns ∈ cluster.namespaces
  own : ∀ artifact : Artifact kind, (cluster.artifacts kind)[place]? = some artifact →
    artifact.otherOwner? source = none

theorem Synchronized.receives {place : ObjectKey} {outcome : Synced} {after : Cluster}
    (h : Synchronized cluster source kind place outcome after) (named : source.Named) :
    cluster.Receives source kind place := by
  refine ⟨named, fun hmissing => ?_, fun artifact hfound => ?_⟩
  · cases h with
    | created _ live => exact live
    | updated found | unchanged found => rw [found] at hmissing; cases hmissing
  · cases h with
    | created missing => rw [missing] at hfound; cases hfound
    | updated found own | unchanged found own =>
      rwa [Option.some.inj (hfound.symm.trans found)]

theorem listNamespaces_ensures (cluster : Cluster) :
    (Program.ask .listNamespaces).Ensures (faulty may) cluster
      (fun live after => live = cluster.namespaces ∧ after = cluster)
      fun _ after => after = cluster ∧ Refusal.Possible may := by
  refine Program.ensures_ask_faulty _ ?_ ?_ fun refusal hmay => ⟨rfl, refusal, hmay⟩
  · intro live after ha
    cases ha
    exact ⟨rfl, rfl⟩
  · intro error after ha
    cases ha

theorem getArtifact_ensures (cluster : Cluster) (kind : ArtifactKind) (place : ObjectKey)
    {onDone : Artifact kind → Cluster → Prop} {onFail : Error → Cluster → Prop}
    (hfound : ∀ artifact, (cluster.artifacts kind)[place]? = some artifact →
      onDone artifact cluster)
    (hmissing : (cluster.artifacts kind)[place]? = none →
      onFail (.notFound kind.resource place) cluster)
    (hrefused : ∀ (request : StoreCall) refusal, may refusal →
      onFail (request.error (.refused refusal)) cluster) :
    (Program.ask (.getArtifact kind place)).Ensures (faulty may) cluster onDone onFail := by
  refine Program.ensures_ask_faulty _ ?_ ?_ (hrefused _)
  · intro artifact after ha
    rw [answer_getArtifact, Prod.mk.injEq] at ha
    obtain ⟨hfind, rfl⟩ := ha
    unfold find at hfind
    split at hfind
    · next found =>
      cases hfind
      exact hfound artifact found
    · cases hfind
  · intro error after ha
    rw [answer_getArtifact, Prod.mk.injEq] at ha
    obtain ⟨hfind, rfl⟩ := ha
    unfold find at hfind
    split at hfind
    · cases hfind
    · next missing =>
      cases hfind
      exact hmissing missing

end Cluster

namespace ClusterConfig

open Cluster

variable {may : Refusal → Prop}

/-- The copy of a source in a namespace is taken away, if it may be. -/
theorem withdraw_ensures (source : ClusterConfig) (cluster : Cluster) (kind : ArtifactKind)
    (ns : String) :
    (source.withdraw kind ns).Ensures (faulty may) cluster
      (fun removal after => source.Named ∧
        cluster.Withdrawn (Refusal.Loses may) source kind ⟨ns, source.metadata.anyName⟩ removal
          after)
      fun _ after => after = cluster ∧ (Refusal.Possible may ∨ ¬ source.Named) := by
  unfold withdraw
  rw [Program.ensures_bind, Program.ensures_ofExcept]
  cases hname : source.requireName with
  | error error =>
    refine ⟨rfl, .inr ?_⟩
    rintro ⟨name, hok⟩
    rw [hname] at hok
    cases hok
  | ok name =>
    have named : source.Named := ⟨name, hname⟩
    obtain rfl := anyName_of_requireName hname
    -- A call that is refused ends the part, or passes for one that finds nothing.
    have hrefused : ∀ (request : StoreCall) (refusal : Refusal), may refusal →
        (if (request.error (.refused refusal)).isNotFound then return .alreadyAbsent
          else Program.fail (request.error (.refused refusal)) : Program Removal).Ensures
          (faulty may) cluster
          (fun removal after => source.Named ∧ cluster.Withdrawn (Refusal.Loses may) source kind
            ⟨ns, source.metadata.anyName⟩ removal after)
          fun _ after => after = cluster ∧ (Refusal.Possible may ∨ ¬ source.Named) := by
      intro request refusal hmay
      by_cases hmissing : (request.error (.refused refusal)).isNotFound
      · rw [if_pos hmissing]
        exact ⟨named, .absent (.inr (StoreCall.loses_of_isNotFound hmay hmissing))⟩
      · rw [if_neg hmissing]
        exact ⟨rfl, .inl ⟨refusal, hmay⟩⟩
    dsimp only
    rw [Program.ensures_bind, Program.ensures_attempt]
    refine cluster.getArtifact_ensures kind _ ?_ ?_ hrefused
    · intro existing found
      dsimp only
      by_cases hother : (existing.otherOwner? source).isSome
      · rw [if_pos hother]
        exact ⟨named, .foreign found hother⟩
      · rw [if_neg hother, Program.ensures_bind, Program.ensures_attempt]
        refine Program.ensures_ask_faulty _ ?_ ?_ (fun refusal => hrefused _ refusal)
        · intro value after ha
          rw [answer_deleteArtifact found] at ha
          cases ha
          exact ⟨named, .deleted found (by simpa using hother)⟩
        · intro error after ha
          rw [answer_deleteArtifact found] at ha
          cases ha
    · exact fun missing => ⟨named, .absent (.inl missing)⟩

/-- The copy of a source in a namespace is brought up to date, if it may be. -/
theorem synchronize_ensures (source : ClusterConfig) {cluster : Cluster}
    (keyed : cluster.WellKeyed) (kind : ArtifactKind) (ns : String) :
    (source.synchronize kind ns).Ensures (faulty may) cluster
      (fun outcome after => source.Named ∧
        cluster.Synchronized source kind ⟨ns, source.metadata.anyName⟩ outcome after)
      fun _ after => after = cluster ∧ (Refusal.Possible may ∨
        ¬ cluster.Receives source kind ⟨ns, source.metadata.anyName⟩) := by
  unfold synchronize
  rw [Program.ensures_bind, Program.ensures_ofExcept]
  cases hname : source.requireName with
  | error error =>
    refine ⟨rfl, .inr fun hreceives => ?_⟩
    obtain ⟨name, hok⟩ := hreceives.named
    rw [hname] at hok
    cases hok
  | ok name =>
    have named : source.Named := ⟨name, hname⟩
    obtain rfl := anyName_of_requireName hname
    -- Where nothing was found a new copy is put up.
    have hcreate : (Refusal.Possible may ∨ (cluster.artifacts kind)[(⟨ns,
          source.metadata.anyName⟩ : ObjectKey)]? = none) →
        (do discard (Program.ask (.createArtifact kind
              (source.newCopy kind source.metadata.anyName ns)))
            return .created : Program Synced).Ensures (faulty may) cluster
          (fun outcome after => source.Named ∧
            cluster.Synchronized source kind ⟨ns, source.metadata.anyName⟩ outcome after)
          fun _ after => after = cluster ∧ (Refusal.Possible may ∨
            ¬ cluster.Receives source kind ⟨ns, source.metadata.anyName⟩) := by
      intro hcause
      rw [Program.ensures_bind, Program.ensures_discard]
      refine Program.ensures_ask_faulty _ ?_ ?_ fun refusal hmay => ⟨rfl, .inl ⟨refusal, hmay⟩⟩
      · intro value after ha
        obtain ⟨missing, live⟩ := answer_createArtifact_eq_ok ha
        rw [answer_createArtifact missing live] at ha
        cases ha
        exact ⟨named, .created missing live⟩
      · intro error after ha
        refine ⟨eq_of_answer_eq_error ha, hcause.imp_right fun missing hreceives => ?_⟩
        have hmissing : (cluster.artifacts kind)[(source.newCopy kind source.metadata.anyName
          ns).metadata.key]? = none := missing
        rw [answer_createArtifact hmissing (hreceives.live missing)] at ha
        cases ha
    dsimp only
    rw [Program.ensures_bind, Program.ensures_attempt]
    refine cluster.getArtifact_ensures kind _ ?_ ?_ ?_
    · intro existing found
      dsimp only
      cases hother : existing.otherOwner? source with
      | some owner =>
        refine ⟨rfl, .inr fun hreceives => ?_⟩
        have hnone := hreceives.own _ found
        rw [hother] at hnone
        cases hnone
      | none =>
        dsimp only
        cases hrevise : source.revise existing with
        | none => exact ⟨named, .unchanged found hother hrevise⟩
        | some revised =>
          obtain ⟨hkey, hversion⟩ := existing.revise_eq_some hrevise
          have hstored : (cluster.artifacts kind)[revised.metadata.key]? = some existing := by
            rw [hkey, keyed.artifacts _ _ existing found]
            exact found
          dsimp only
          rw [Program.ensures_bind, Program.ensures_discard]
          refine Program.ensures_ask_faulty _ ?_ ?_ fun refusal hmay =>
            ⟨rfl, .inl ⟨refusal, hmay⟩⟩
          · intro value after ha
            rw [answer_replaceArtifact hstored hversion.symm] at ha
            cases ha
            exact ⟨named, .updated found hother hrevise⟩
          · intro error after ha
            rw [answer_replaceArtifact hstored hversion.symm] at ha
            cases ha
    · intro missing
      have hmissing : (Error.notFound kind.resource
        ⟨ns, source.metadata.anyName⟩).isNotFound = true := rfl
      dsimp only
      rw [if_pos hmissing]
      exact hcreate (.inr missing)
    · intro request refusal hrefusal
      dsimp only
      split
      · exact hcreate (.inl ⟨refusal, hrefusal⟩)
      · exact ⟨rfl, .inl ⟨refusal, hrefusal⟩⟩

end ClusterConfig

end ConfigFanout
