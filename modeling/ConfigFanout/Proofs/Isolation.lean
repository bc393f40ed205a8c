import ConfigFanout.Proofs.Lasting

-- What a round leaves alone: other sources, artifacts of the other kind or of other names, and
-- artifacts that name another source. It does so whichever calls fail, for a source that
-- stays and for one on its way out.
namespace ConfigFanout

theorem ClusterConfig.name_of_named {source base : ClusterConfig}
    (alike : source.bare = base.bare) (named : source.Named) :
    base.metadata.name = some source.metadata.anyName := by
  obtain ⟨name, hname⟩ := named
  rw [anyName_of_requireName hname, ← name_of_alike alike]
  unfold requireName at hname
  split at hname
  · next heq =>
    cases hname
    exact heq
  · cases hname

namespace Cluster

/-- Two clusters differ in nothing but what a round for a source may write: its finalizers, its
status and its version, and the artifacts of its kind that bear its name and do not belong to
another source. The source itself is gone only if it was on its way out. -/
structure Confined (source : ClusterConfig) (before after : Cluster) : Prop where
  namespaces : after.namespaces = before.namespaces
  sources : ∀ key, key ≠ source.metadata.key → after.sources[key]? = before.sources[key]?
  kinds : ∀ kind, kind ≠ source.spec.kind → after.artifacts kind = before.artifacts kind
  names : ∀ place : ObjectKey, source.metadata.name ≠ some place.name →
    (after.artifacts source.spec.kind)[place]? = (before.artifacts source.spec.kind)[place]?
  foreign : ∀ (place : ObjectKey) (artifact : Artifact source.spec.kind),
    (before.artifacts source.spec.kind)[place]? = some artifact →
    (artifact.otherOwner? source).isSome →
    (after.artifacts source.spec.kind)[place]? = some artifact
  own : ∀ final, after.sources[source.metadata.key]? = some final → final.bare = source.bare
  left : after.sources[source.metadata.key]? = none → source.isDeleting = true

variable {base source stored : ClusterConfig} {origin cluster after : Cluster}

theorem Confined.start (stored : cluster.sources[source.metadata.key]? = some source) :
    Confined source cluster cluster where
  namespaces := rfl
  sources _ _ := rfl
  kinds _ _ := rfl
  names _ _ := rfl
  foreign _ _ found _ := found
  own final hfinal := by rw [Option.some.inj (hfinal.symm.trans stored)]
  left missing := by
    rw [stored] at missing
    cases missing

theorem Confined.putSource (h : Confined base origin cluster) (alike : source.bare = base.bare) :
    Confined base origin (cluster.putSource base.metadata.key source) where
  namespaces := h.namespaces
  sources key hne := by
    rw [sources_putSource, if_neg (Ne.symm hne)]
    exact h.sources key hne
  kinds kind hne := by rw [artifacts_putSource, h.kinds kind hne]
  names place hname := by rw [artifacts_putSource, h.names place hname]
  foreign place artifact found hother := by
    rw [artifacts_putSource, h.foreign place artifact found hother]
  own final hfinal := by
    rw [sources_putSource, if_pos rfl] at hfinal
    cases hfinal
    exact alike
  left missing := by
    rw [sources_putSource, if_pos rfl] at missing
    cases missing

theorem Confined.removeSource (h : Confined base origin cluster)
    (leaves : base.isDeleting = true) :
    Confined base origin (cluster.removeSource base.metadata.key) where
  namespaces := h.namespaces
  sources key hne := by
    rw [sources_removeSource, if_neg (Ne.symm hne)]
    exact h.sources key hne
  kinds kind hne := by rw [artifacts_removeSource, h.kinds kind hne]
  names place hname := by rw [artifacts_removeSource, h.names place hname]
  foreign place artifact found hother := by
    rw [artifacts_removeSource, h.foreign place artifact found hother]
  own final hfinal := by
    rw [sources_removeSource, if_pos rfl] at hfinal
    cases hfinal
  left _ := leaves

/-- A write to one place with the name of the source is confined, unless what is there belongs
to another source. -/
theorem Confined.writeArtifact (h : Confined base origin cluster) {place : ObjectKey}
    (named : base.metadata.name = some place.name)
    (hfree : ∀ old : Artifact base.spec.kind, (cluster.artifacts base.spec.kind)[place]? =
      some old → old.otherOwner? base = none)
    (namespaces : after.namespaces = cluster.namespaces) (sources : after.sources = cluster.sources)
    (kinds : ∀ kind, kind ≠ base.spec.kind → after.artifacts kind = cluster.artifacts kind)
    (elsewhere : ∀ other, place ≠ other → (after.artifacts base.spec.kind)[other]? =
      (cluster.artifacts base.spec.kind)[other]?) :
    Confined base origin after where
  namespaces := namespaces.trans h.namespaces
  sources key hne := by rw [sources, h.sources key hne]
  kinds kind hne := (kinds kind hne).trans (h.kinds kind hne)
  names other hname := by
    rw [elsewhere other, h.names other hname]
    rintro rfl
    exact hname named
  foreign other artifact found hother := by
    have hbefore := h.foreign other artifact found hother
    rw [elsewhere other, hbefore]
    rintro rfl
    rw [hfree artifact hbefore] at hother
    cases hother
  own final hfinal := by
    rw [sources] at hfinal
    exact h.own final hfinal
  left missing := by
    rw [sources] at missing
    exact h.left missing

theorem Confined.putArtifact (h : Confined base origin cluster) {kind : ArtifactKind}
    (hkind : kind = base.spec.kind) {place : ObjectKey} {artifact : Artifact kind}
    (hkey : artifact.metadata.key = place) (named : base.metadata.name = some place.name)
    (hfree : ∀ old : Artifact kind, (cluster.artifacts kind)[place]? = some old →
      old.otherOwner? base = none) :
    Confined base origin (cluster.putArtifact artifact) := by
  subst hkind
  refine h.writeArtifact named hfree (namespaces_putArtifact ..) (sources_putArtifact ..)
    (fun _ hne => artifacts_putArtifact_ne _ hne _) fun other hne => ?_
  rw [artifacts_putArtifact, hkey, if_neg hne]

theorem Confined.removeArtifact (h : Confined base origin cluster) {kind : ArtifactKind}
    (hkind : kind = base.spec.kind) {place : ObjectKey}
    (named : base.metadata.name = some place.name)
    (hfree : ∀ old : Artifact kind, (cluster.artifacts kind)[place]? = some old →
      old.otherOwner? base = none) :
    Confined base origin (cluster.removeArtifact kind place) := by
  subst hkind
  refine h.writeArtifact named hfree (namespaces_removeArtifact ..) (sources_removeArtifact ..)
    (fun _ hne => artifacts_removeArtifact_ne _ hne _) fun other hne => ?_
  rw [artifacts_removeArtifact, if_neg hne]

/-- Every kind of write that a round makes is confined. -/
theorem lastsRound_confined (base : ClusterConfig) (origin : Cluster) :
    LastsRound fun source cluster =>
      source.bare = base.bare ∧ cluster.WellKeyed ∧ Confined base origin cluster where
  finalizers {source stored cluster} finalizers hkept _ := by
    obtain ⟨alike, keyed, h⟩ := hkept
    refine ⟨alike, keyed.replaceSource _, ?_⟩
    have hkey : (source.withFinalizers finalizers).metadata.key = base.metadata.key :=
      ClusterConfig.key_of_alike alike
    have hput : Confined base origin (cluster.putSource base.metadata.key
        { source.withFinalizers finalizers with status := stored.status }) := h.putSource alike
    unfold replaceSource
    dsimp only
    rw [hkey]
    split
    · next hgone =>
      refine hput.removeSource ?_
      rw [← ClusterConfig.deleting_of_alike alike]
      exact (Bool.and_eq_true_iff.mp hgone).1
    · exact hput
  removal {source cluster ns artifact} hkept named found own := by
    obtain ⟨alike, keyed, h⟩ := hkept
    refine ⟨alike, keyed.removeArtifact _ _, ?_⟩
    refine h.removeArtifact (ClusterConfig.kind_of_alike alike)
      (ClusterConfig.name_of_named alike named) fun old hold => ?_
    rwa [← Artifact.otherOwner?_of_alike _ alike, ← Option.some.inj (found.symm.trans hold)]
  keyed hkept := hkept.2.1
  status {source stored cluster} status hkept hstored := by
    obtain ⟨alike, keyed, h⟩ := hkept
    have hkey : stored.metadata.key = source.metadata.key := keyed.sources _ stored hstored
    have hbase := ClusterConfig.key_of_alike alike
    have hsame : stored.bare = base.bare := h.own stored (hbase ▸ hstored)
    refine ⟨hsame, ?_, ?_⟩
    · rw [← hkey]
      exact keyed.putSource { stored with status }
    · rw [hbase]
      exact h.putSource hsame
  placement {source cluster after ns outcome} hkept named hplaced := by
    obtain ⟨alike, keyed, h⟩ := hkept
    have hname := ClusterConfig.name_of_named alike named
    have hkind := ClusterConfig.kind_of_alike alike
    cases hplaced with
    | created missing live =>
      refine ⟨alike, keyed.putArtifact _, h.putArtifact hkind rfl hname fun old hold => ?_⟩
      cases missing.symm.trans hold
    | @updated existing revised found own hrevise =>
      obtain ⟨hkey, -⟩ := existing.revise_eq_some hrevise
      rw [keyed.artifacts _ _ existing found] at hkey
      refine ⟨alike, keyed.putArtifact _, h.putArtifact hkind hkey hname fun old hold => ?_⟩
      rwa [← Artifact.otherOwner?_of_alike _ alike, ← Option.some.inj (found.symm.trans hold)]
    | unchanged => exact ⟨alike, keyed, h⟩

/-- A round for a stored source is confined. -/
theorem confined_ensures {may : Refusal → Prop} (keyed : cluster.WellKeyed)
    (stored : cluster.sources[source.metadata.key]? = some source) :
    (reconcile source.metadata.key).Ensures (faulty may) cluster
      (fun _ after => Confined source cluster after)
      fun _ after => Confined source cluster after := by
  refine ((lastsRound_confined source cluster).reconcile_ensures stored
    ⟨rfl, keyed, Confined.start stored⟩).mono ?_ ?_
  · exact fun _ after ⟨_, _, _, hafter⟩ => hafter
  · exact fun _ after ⟨_, _, _, hafter⟩ => hafter

end Cluster

/-- A round changes nothing but what its source may write, whichever calls fail and however it
ends. Without the source it changes nothing at all. -/
theorem a_round_leaves_all_else_as_it_was {may : Refusal → Prop} {simulation : Simulation}
    (key : ObjectKey) (undisturbed : simulation.Undisturbed may)
    (keyed : simulation.cluster.WellKeyed) :
    (simulation.cluster.sources[key]? = none →
      (simulation.reconcile key).2.cluster = simulation.cluster) ∧
    ∀ source, simulation.cluster.sources[key]? = some source →
      Cluster.Confined source simulation.cluster (simulation.reconcile key).2.cluster := by
  constructor
  · exact fun missing => undisturbed.reconcile_leaves (Cluster.reconcile_of_missing missing)
  · intro source stored
    obtain rfl := keyed.sources key source stored
    exact undisturbed.reconcile_leaves (Cluster.confined_ensures keyed stored)

/-- The copy in a namespace of a source with the same name that lives elsewhere. -/
def Artifact.trialOfOther (ns : String) : Artifact .configMap :=
  ({ ClusterConfig.trial ns with
    metadata := { name := some "app-config", ns := some "elsewhere" } } : ClusterConfig).newCopy
    .configMap "app-config" ns

/-- A round that will find such a copy in its way, after it put up one of its own. -/
def Simulation.contested : Simulation where
  cluster := (Cluster.trial ["a", "b"] "a,b").putArtifact (.trialOfOther "b")
  rules := [{ on := "get ConfigMap a/*", refusal := some { code := 404 } }]

/-- A round that fails over the copy of another source leaves that copy as it was. -/
theorem a_copy_of_another_source_is_left_as_it_was :
    (Simulation.contested.reconcile ⟨"default", "app-config"⟩).1 =
        .error (.foreign .configMap ⟨"b", "app-config"⟩ "elsewhere/app-config") ∧
      (Simulation.contested.reconcile ⟨"default", "app-config"⟩).2.cluster.configMaps[
        (⟨"a", "app-config"⟩ : ObjectKey)]?.isSome ∧
      (Simulation.contested.reconcile ⟨"default", "app-config"⟩).2.cluster.configMaps[
        (⟨"b", "app-config"⟩ : ObjectKey)]? = some ((Artifact.trialOfOther "b").atVersion 2) := by
  refine ⟨by decide +kernel, by decide +kernel, ?_⟩
  have hconfined := (@a_round_leaves_all_else_as_it_was (fun _ => True) .contested
    ⟨"default", "app-config"⟩ ⟨by simp [Simulation.contested], by simp⟩
    ((Cluster.keyed_trial _ _).putArtifact _)).2 ((ClusterConfig.trial "a,b").atVersion 1)
    (by decide +kernel)
  exact hconfined.foreign ⟨"b", "app-config"⟩ _ (by decide +kernel) (by decide +kernel)

end ConfigFanout
