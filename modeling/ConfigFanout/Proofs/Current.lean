import ConfigFanout.Proofs.LostUpdates

-- What a round knows as long as nobody else writes what its source may hold: the source at hand
-- is the stored one, and the artifact that was seen last is still there. So no write of the
-- round is refused because of a version, and it keeps to what the source may hold.
namespace ConfigFanout

namespace Cluster.Spares

variable {base : ClusterConfig} {cluster : Cluster} {kind : ArtifactKind}

theorem putArtifact (hkind : kind = base.spec.kind) {artifact : Artifact kind}
    (hname : artifact.metadata.key.name = base.metadata.anyName)
    (hfree : ∀ old, (cluster.artifacts kind)[artifact.metadata.key]? = some old →
      old.otherOwner? base = none) : Spares base cluster (cluster.putArtifact artifact) := by
  subst hkind
  have hkey : artifact.metadata.key = ⟨artifact.metadata.key.ns, base.metadata.anyName⟩ := by
    rw [← hname]
  rw [hkey] at hfree
  have hput : ∀ key : ObjectKey, ((cluster.putArtifact artifact).artifacts base.spec.kind)[key]? =
      if (⟨artifact.metadata.key.ns, base.metadata.anyName⟩ : ObjectKey) = key
      then some (artifact.atVersion cluster.nextVersion)
      else (cluster.artifacts base.spec.kind)[key]? := by
    intro key
    rw [artifacts_putArtifact, ← hkey]
  exact writeCopy hfree (sources_putArtifact ..) (namespaces_putArtifact ..)
    (fun _ hne => artifacts_putArtifact_ne _ hne _) hput

theorem removeArtifact (hkind : kind = base.spec.kind) {place : ObjectKey}
    (hname : place.name = base.metadata.anyName)
    (hfree : ∀ old, (cluster.artifacts kind)[place]? = some old →
      old.otherOwner? base = none) : Spares base cluster (cluster.removeArtifact kind place) := by
  subst hkind
  have hkey : place = ⟨place.ns, base.metadata.anyName⟩ := by rw [← hname]
  rw [hkey] at hfree ⊢
  exact writeCopy hfree (sources_removeArtifact ..) (namespaces_removeArtifact ..)
    (fun _ hne => artifacts_removeArtifact_ne _ hne _) fun key => artifacts_removeArtifact ..

end Cluster.Spares

theorem Knowledge.hand_of_learn {known : Knowledge} {request : StoreCall}
    {answer : Except Error request.Answer} (h : (known.learn request answer).hand = none) :
    known.hand = none := by
  cases answer with
  | error error => rwa [hand_learn_error] at h
  | ok value => cases request <;> first | exact h | cases h

namespace Warranted

variable {key : ObjectKey} {known : Knowledge} {request : StoreCall}

/-- Before the source is at hand, a round only looks it up and lists the namespaces. -/
theorem looks (warranted : Warranted key known request) (hnone : known.hand = none) :
    request = .getSource key ∨ request = .listNamespaces := by
  have hnever : ∀ {hand : ClusterConfig}, known.hand ≠ some hand := by simp [hnone]
  cases warranted with
  | fetch => exact .inl rfl
  | list => exact .inr rfl
  | look hhand | take hhand | add hhand | drop hhand | record hhand | create _ hhand
  | replace _ hhand => exact absurd hhand hnever

theorem unchanged (warranted : Warranted key known request) (hnone : known.hand = none)
    (cluster : Cluster) : (cluster.answer request).2 = cluster := by
  obtain rfl | rfl := warranted.looks hnone
  · cases hstored : cluster.sources[key]? with
    | none => rw [Cluster.answer_getSource_missing hstored]
    | some stored => rw [Cluster.answer_getSource hstored]
  · rfl

end Warranted

namespace Knowledge

/-- What a round for a source knows is how things are in a cluster. The source may be gone. -/
structure Current (base : ClusterConfig) (known : Knowledge) (cluster : Cluster) : Prop where
  keyed : cluster.WellKeyed
  own : ∀ stored, cluster.sources[base.metadata.key]? = some stored → stored.bare = base.bare
  hand : ∀ hand, known.hand = some hand → hand.bare = base.bare ∧
    ∀ stored, cluster.sources[base.metadata.key]? = some stored → stored = hand
  seen : ∀ sighting, known.seen = some sighting →
    sighting.kind = base.spec.kind ∧ sighting.place.name = base.metadata.anyName ∧
    (cluster.artifacts sighting.kind)[sighting.place]? = some sighting.artifact

namespace Current

variable {base : ClusterConfig} {known : Knowledge} {cluster after : Cluster}

theorem start (keyed : cluster.WellKeyed)
    (stored : cluster.sources[base.metadata.key]? = some base) : Current base {} cluster where
  keyed := keyed
  own other hother := by rw [Option.some.inj (hother.symm.trans stored)]
  hand := by simp
  seen := by simp

/-- A source that a call gave is at hand from then on. -/
theorem give (keyed : after.WellKeyed) {source : ClusterConfig} {next : Knowledge}
    (hnext : next.hand = some source) (hunseen : next.seen = none)
    (alike : source.bare = base.bare)
    (stored : ∀ other, after.sources[base.metadata.key]? = some other → other = source) :
    Current base next after where
  keyed := keyed
  own other hother := by rw [stored other hother, alike]
  hand hand hhand := by
    rw [hnext] at hhand
    cases hhand
    exact ⟨alike, stored⟩
  seen sighting hseen := by
    rw [hunseen] at hseen
    cases hseen

/-- What was seen of artifacts is forgotten, and an artifact may be written. -/
theorem forget (h : Current base known cluster) (keyed : after.WellKeyed)
    (sources : after.sources = cluster.sources) {next : Knowledge}
    (hhand : next.hand = known.hand) (hunseen : next.seen = none) : Current base next after where
  keyed := keyed
  own := by
    rw [sources]
    exact h.own
  hand := by
    rw [sources, hhand]
    exact h.hand
  seen sighting hseen := by
    rw [hunseen] at hseen
    cases hseen

/-- The source that a round writes is the one at hand but for its finalizers or its status. -/
theorem alike_of_warranted (h : Current base known cluster) {source : ClusterConfig}
    (warranted : Warranted base.metadata.key known (.updateSource source) ∨
      Warranted base.metadata.key known (.updateStatus source)) : source.bare = base.bare := by
  rcases warranted with warranted | warranted
  · cases warranted with
    | add hhand => exact (h.hand _ hhand).1
    | drop hhand => exact (h.hand _ hhand).1
  · cases warranted with
    | record hhand => exact (h.hand _ hhand).1

/-- The source that a round writes is of the stored version, if it is stored. -/
theorem version_of_warranted (h : Current base known cluster) {source : ClusterConfig}
    (warranted : Warranted base.metadata.key known (.updateSource source)) :
    ∀ stored, cluster.sources[base.metadata.key]? = some stored →
      stored.metadata.resourceVersion = source.metadata.resourceVersion := by
  intro stored hstored
  cases warranted with
  | add hhand => rw [(h.hand _ hhand).2 stored hstored]; rfl
  | drop hhand => rw [(h.hand _ hhand).2 stored hstored]; rfl

/-- An artifact that a round revises is stored where the revised one goes, at its version. -/
theorem found_of_warranted (h : Current base known cluster) {kind : ArtifactKind}
    {revised : Artifact kind}
    (warranted : Warranted base.metadata.key known (.replaceArtifact kind revised)) :
    kind = base.spec.kind ∧ revised.metadata.key.name = base.metadata.anyName ∧
      ∃ artifact, (cluster.artifacts kind)[revised.metadata.key]? = some artifact ∧
        artifact.metadata.resourceVersion = revised.metadata.resourceVersion ∧
        artifact.otherOwner? base = none := by
  cases warranted with
  | @replace _ hand _ artifact _ _ hhand _ hseen hother hrevise =>
    obtain ⟨alike, -⟩ := h.hand _ hhand
    obtain ⟨hkind, hname, found⟩ := h.seen _ hseen
    obtain ⟨hkey, version⟩ := artifact.revise_eq_some hrevise
    have hplace := hkey.trans (h.keyed.artifacts _ _ _ found)
    rw [hplace]
    refine ⟨hkind, hname, artifact, found, version.symm, ?_⟩
    rw [← artifact.otherOwner?_of_alike alike, hother]

/-- The source is at hand as it was written. -/
theorem wroteSource (h : Current base known cluster) {source : ClusterConfig}
    {status : Option ClusterConfigStatus}
    (warranted : Warranted base.metadata.key known (.updateSource source)) :
    let written : ClusterConfig := { source with status }
    Current base { known with hand := some (written.atVersion cluster.nextVersion), seen := none }
        (cluster.replaceSource written) ∧
      Cluster.Spares base cluster (cluster.replaceSource written) := by
  have alike := h.alike_of_warranted (.inl warranted)
  have hkey := ClusterConfig.key_of_alike alike
  refine ⟨give (h.keyed.replaceSource _) rfl rfl alike fun other hother => ?_,
    .writeSource (Cluster.namespaces_replaceSource ..) (fun key hne => ?_)
      fun _ => Cluster.artifacts_replaceSource ..⟩
  · rw [Cluster.sources_replaceSource, if_pos hkey] at hother
    split at hother
    · cases hother
    · exact (Option.some.inj hother).symm
  · rw [Cluster.sources_replaceSource, if_neg]
    rintro rfl
    exact hne hkey

theorem wroteStatus (h : Current base known cluster) {source stored : ClusterConfig}
    (warranted : Warranted base.metadata.key known (.updateStatus source))
    (hstored : cluster.sources[source.metadata.key]? = some stored) :
    let written : ClusterConfig := { stored with status := source.status }
    Current base { known with hand := some (written.atVersion cluster.nextVersion), seen := none }
        (cluster.putSource source.metadata.key written) ∧
      Cluster.Spares base cluster (cluster.putSource source.metadata.key written) := by
  have hkey := ClusterConfig.key_of_alike (h.alike_of_warranted (.inr warranted))
  have hown : stored.metadata.key = source.metadata.key := h.keyed.sources _ stored hstored
  rw [hkey] at hstored ⊢
  refine ⟨give ?_ rfl rfl (h.own stored hstored :) fun other hother => ?_,
    .writeSource rfl (fun key hne => ?_) fun _ => Cluster.artifacts_putSource ..⟩
  · rw [← hkey, ← hown]
    exact h.keyed.putSource { stored with status := source.status }
  · rw [Cluster.sources_putSource, if_pos rfl] at hother
    exact (Option.some.inj hother).symm
  · rw [Cluster.sources_putSource, if_neg (Ne.symm hne)]

/-- What is written to the source, or taken away for it, leaves all else alone. -/
theorem step (h : Current base known cluster) {request : StoreCall}
    {answer : Except Error request.Answer}
    (warranted : Warranted base.metadata.key known request)
    (ha : cluster.answer request = (answer, after)) :
    Current base (known.learn request answer) after ∧ Cluster.Spares base cluster after := by
  cases answer with
  | error error =>
    obtain rfl := Cluster.eq_of_answer_eq_error ha
    exact ⟨h.forget h.keyed rfl (hand_learn_error known request error)
      (seen_learn_error known request error), .refl base _⟩
  | ok value =>
    cases Cluster.grants_of_answer ha with
    | @getSource place source found =>
      cases warranted
      refine ⟨give h.keyed rfl rfl (h.own _ found) fun other hother => ?_, .refl base _⟩
      exact Option.some.inj (hother.symm.trans found)
    | updateSource hstored version => exact h.wroteSource warranted
    | updateStatus hstored => exact h.wroteStatus warranted hstored
    | listNamespaces => exact ⟨h.forget h.keyed rfl rfl rfl, .refl base _⟩
    | @getArtifact kind place artifact found =>
      cases warranted with
      | look hhand =>
        obtain ⟨alike, -⟩ := h.hand _ hhand
        refine ⟨⟨h.keyed, h.own, h.hand, fun sighting hseen => ?_⟩, .refl base _⟩
        cases hseen
        exact ⟨ClusterConfig.kind_of_alike alike, ClusterConfig.anyName_of_alike alike, found⟩
    | @createArtifact kind artifact missing live =>
      refine ⟨h.forget (h.keyed.putArtifact _) (Cluster.sources_putArtifact ..) rfl rfl, ?_⟩
      cases warranted with
      | create _ hhand =>
        obtain ⟨alike, -⟩ := h.hand _ hhand
        refine .putArtifact (ClusterConfig.kind_of_alike alike)
          (ClusterConfig.anyName_of_alike alike) fun old hold => ?_
        cases missing.symm.trans hold
    | @replaceArtifact kind revised stored hstored version =>
      refine ⟨h.forget (h.keyed.putArtifact _) (Cluster.sources_putArtifact ..) rfl rfl, ?_⟩
      obtain ⟨hkind, hname, artifact, found, -, hother⟩ := h.found_of_warranted warranted
      refine .putArtifact hkind hname fun old hold => ?_
      cases found.symm.trans hold
      exact hother
    | @deleteArtifact kind place stored hstored =>
      refine ⟨h.forget (h.keyed.removeArtifact _ _) (Cluster.sources_removeArtifact ..) rfl rfl,
        ?_⟩
      cases warranted with
      | @take _ _ artifact hhand hseen hother =>
        obtain ⟨alike, -⟩ := h.hand _ hhand
        obtain ⟨hkind, hname, found⟩ := h.seen _ hseen
        refine .removeArtifact hkind hname fun old hold => ?_
        cases found.symm.trans hold
        rw [← artifact.otherOwner?_of_alike alike, hother]

end Current

end Knowledge

end ConfigFanout
