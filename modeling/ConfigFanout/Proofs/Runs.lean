import ConfigFanout.Proofs.Departure

-- Runs: what happens to a source over time, one turn after the other. A turn is a round for
-- the source, in which calls may fail, or something that others do between rounds.
namespace ConfigFanout

/-- Something that happens. -/
inductive Turn where
  /-- A round for the source. The rules say which calls fail. -/
  | round (rules : List (Rule Change))
  /-- A new list of namespaces and new data for the source. -/
  | edit (namespaceList : String) (data : TextMap String)
  /-- One namespace more. -/
  | addNamespace (ns : String)
  /-- Others take an artifact away. -/
  | loseArtifact (kind : ArtifactKind) (place : ObjectKey)

namespace Turn

/-- The cluster after a turn for the source under a key. -/
def take (key : ObjectKey) (cluster : Cluster) : Turn → Cluster
  | .round rules => (Simulation.reconcile { cluster, rules } key).2.cluster
  | .edit namespaceList data =>
    match cluster.sources[key]? with
    | some source =>
      cluster.putSource key { source with spec := { source.spec with namespaceList, data } }
    | none => cluster
  | .addNamespace ns => { cluster with namespaces := cluster.namespaces ++ [ns] }
  | .loseArtifact kind place => cluster.removeArtifact kind place

theorem artifacts_addNamespace (key : ObjectKey) (cluster : Cluster) (ns : String)
    (kind : ArtifactKind) :
    (take key cluster (.addNamespace ns)).artifacts kind = cluster.artifacts kind := by
  cases kind <;> rfl

/-- Calls fail in other ways than that something were missing, and nobody interferes with a
round while it goes on. -/
def Fair : Turn → Prop
  | .round rules =>
    Simulation.Undisturbed Refusal.NotMissing { rules }
  | _ => True

@[simp] theorem fair_round {rules : List (Rule Change)} :
    (round rules).Fair ↔ ∀ rule ∈ rules, rule.changes = [] ∧
      ∀ refusal, rule.refusal = some refusal → refusal.NotMissing :=
  ⟨fun h rule mem => ⟨h.quiet rule mem, h.refusals rule mem⟩,
    fun h => ⟨fun rule mem => (h rule mem).1, fun rule mem => (h rule mem).2⟩⟩

@[simp] theorem fair_edit (namespaceList : String) (data : TextMap String) :
    (edit namespaceList data).Fair := trivial

/-- The turns that leave the artifacts of the source to its rounds. -/
def Own : Turn → Prop
  | .round _ | .edit .. => True
  | .addNamespace _ | .loseArtifact .. => False

end Turn

namespace Cluster

def afterTurns (cluster : Cluster) (key : ObjectKey) (turns : List Turn) : Cluster :=
  turns.foldl (Turn.take key) cluster

/-- A namespace holds an artifact of a kind whose labels name a source. -/
def Labelled (cluster : Cluster) (kind : ArtifactKind) (key : ObjectKey) (ns : String) : Prop :=
  ∃ (name : String) (artifact : Artifact kind),
    (cluster.artifacts kind)[(⟨ns, name⟩ : ObjectKey)]? = some artifact ∧
      artifact.owner? = some key

theorem labelled_of_any {cluster : Cluster} {kind : ArtifactKind} {key : ObjectKey}
    (place : ObjectKey) (h : ((cluster.artifacts kind)[place]?).any (·.owner? = some key) = true) :
    cluster.Labelled kind key place.ns := by
  obtain ⟨artifact, found, howner⟩ := (Option.any_eq_true _ _).mp h
  exact ⟨place.name, artifact, found, of_decide_eq_true howner⟩

/-- A source that was never worked on: it has no finalizers and no status, and no artifact of
its kind is labelled for it. -/
structure Fresh (cluster : Cluster) (key : ObjectKey) (source : ClusterConfig) : Prop where
  keyed : cluster.WellKeyed
  stored : cluster.sources[key]? = some source
  held : source.metadata.held = []
  status : source.status = none
  unlabelled : ∀ ns, ¬ cluster.Labelled source.spec.kind key ns

/-- What every run of a source that stays keeps: its kind, and that artifacts labelled for it
bear its name. -/
structure Orderly (cluster : Cluster) (key : ObjectKey) (kind : ArtifactKind) : Prop where
  keyed : cluster.WellKeyed
  stored : ∃ source, cluster.sources[key]? = some source ∧ source.isDeleting = false ∧
    source.spec.kind = kind
  names : ∀ (place : ObjectKey) (artifact : Artifact kind),
    (cluster.artifacts kind)[place]? = some artifact → artifact.owner? = some key →
    place.name = key.name

end Cluster

/-- A namespace holds a copy whose labels name the source. -/
def Holdings.Bears {base : ClusterConfig} (holdings : Holdings base.spec.kind) (ns : String) :
    Prop :=
  ∃ copy, holdings.copies ns = some copy ∧ copy.owner? = some base.metadata.key

instance {base : ClusterConfig} (holdings : Holdings base.spec.kind) (ns : String) :
    Decidable (holdings.Bears ns) :=
  decidable_of_iff ((holdings.copies ns).any (·.owner? = some base.metadata.key) = true) (by
    simp [Holdings.Bears, Option.any_eq_true])

namespace Cluster

variable {base : ClusterConfig} {cluster after : Cluster} {key : ObjectKey} {kind : ArtifactKind}

/-- Where labelled artifacts bear the name of the source, they are its copies. -/
theorem Orderly.labelled_iff (h : cluster.Orderly base.metadata.key base.spec.kind)
    {ns : String} :
    cluster.Labelled base.spec.kind base.metadata.key ns ↔ (cluster.holdings base).Bears ns := by
  constructor
  · rintro ⟨name, artifact, found, howner⟩
    have hname : name = base.metadata.anyName := h.names _ artifact found howner
    rw [hname] at found
    exact ⟨artifact.sansVersion, by rw [copies_holdings, found]; rfl, howner⟩
  · rintro ⟨copy, hcopy, howner⟩
    obtain ⟨artifact, found, rfl⟩ := exists_of_copies hcopy
    exact ⟨_, artifact, found, howner⟩

theorem Fresh.orderly {source : ClusterConfig} (h : cluster.Fresh key source)
    (stays : source.isDeleting = false) : cluster.Orderly key source.spec.kind where
  keyed := h.keyed
  stored := ⟨source, h.stored, stays, rfl⟩
  names place artifact found howner := absurd ⟨place.name, artifact, found, howner⟩
    (h.unlabelled place.ns)

theorem Reaches.orderly {holdings : Holdings base.spec.kind}
    (h : cluster.Reaches base holdings after) (stays : base.isDeleting = false)
    (ho : cluster.Orderly base.metadata.key base.spec.kind) :
    after.Orderly base.metadata.key base.spec.kind where
  keyed := h.keyed
  stored := by
    obtain ⟨source, stored, alike⟩ := h.stays
    exact ⟨source, stored, (ClusterConfig.deleting_of_alike alike).trans stays,
      ClusterConfig.kind_of_alike alike⟩
  names place artifact found howner := by
    by_cases hname : place.name = base.metadata.anyName
    · exact hname
    · rw [h.spares.names place hname] at found
      exact ho.names place artifact found howner

/-- What a round for a source that stays leads to where nothing is lost, whether it succeeds or
fails. -/
theorem WellKeyed.round (keyed : cluster.WellKeyed)
    (stored : cluster.sources[base.metadata.key]? = some base) (stays : base.isDeleting = false)
    {rules : List (Rule Change)} (fair : (Turn.round rules).Fair) :
    ∃ next : Holdings base.spec.kind,
      cluster.Reaches base next ((Turn.round rules).take base.metadata.key cluster) ∧
      ((∃ action, (Simulation.reconcile { cluster, rules } base.metadata.key).1 = .ok action) ∧
          next = ((cluster.holdings base).retired (NamespaceList.target base.spec.namespaceList
            cluster.namespaces)).finished (NamespaceList.target base.spec.namespaceList
              cluster.namespaces) ∧
          (cluster.holdings base).Feasible (NamespaceList.target base.spec.namespaceList
            cluster.namespaces) cluster.namespaces ∨
        (∃ error, (Simulation.reconcile { cluster, rules } base.metadata.key).1 =
            .error error) ∧
          (cluster.holdings base).Interrupted (NamespaceList.target base.spec.namespaceList
            cluster.namespaces) cluster.namespaces next) := by
  have undisturbed : Simulation.Undisturbed Refusal.NotMissing { cluster, rules } :=
    ⟨fair.quiet, fair.refusals⟩
  cases hresult : (Simulation.reconcile { cluster, rules } base.metadata.key).1 with
  | ok action =>
    obtain ⟨hfeasible, hreaches⟩ := undisturbed.reconcile_ok Refusal.not_loses_notMissing
      keyed stored rfl stays rfl hresult
    exact ⟨_, hreaches, .inl ⟨⟨action, rfl⟩, rfl, hfeasible⟩⟩
  | error error =>
    obtain ⟨⟨next, hinterrupted, hreaches⟩, -⟩ := undisturbed.reconcile_error
      Refusal.not_loses_notMissing keyed stored rfl stays rfl hresult
    exact ⟨next, hreaches, .inr ⟨⟨error, rfl⟩, hinterrupted⟩⟩

/-- So it is with a source in order. -/
theorem Orderly.round (ho : cluster.Orderly key kind) {rules : List (Rule Change)}
    (fair : (Turn.round rules).Fair) :
    ∃ (base : ClusterConfig) (next : Holdings base.spec.kind),
      cluster.sources[key]? = some base ∧ base.isDeleting = false ∧ base.metadata.key = key ∧
      base.spec.kind = kind ∧
      cluster.Reaches base next ((Turn.round rules).take key cluster) ∧
      ((∃ action, (Simulation.reconcile { cluster, rules } key).1 = .ok action) ∧
          next = ((cluster.holdings base).retired (NamespaceList.target base.spec.namespaceList
            cluster.namespaces)).finished (NamespaceList.target base.spec.namespaceList
              cluster.namespaces) ∧
          (cluster.holdings base).Feasible (NamespaceList.target base.spec.namespaceList
            cluster.namespaces) cluster.namespaces ∨
        (∃ error, (Simulation.reconcile { cluster, rules } key).1 = .error error) ∧
          (cluster.holdings base).Interrupted (NamespaceList.target base.spec.namespaceList
            cluster.namespaces) cluster.namespaces next) := by
  obtain ⟨base, stored, stays, hkind⟩ := ho.stored
  obtain rfl := ho.keyed.sources key base stored
  obtain ⟨next, hround⟩ := ho.keyed.round stored stays fair
  exact ⟨base, next, stored, stays, rfl, hkind, hround⟩

/-- Every turn leaves the source in order. -/
theorem Orderly.take (ho : cluster.Orderly key kind) {turn : Turn} (fair : turn.Fair) :
    (turn.take key cluster).Orderly key kind := by
  cases turn with
  | round rules =>
    obtain ⟨base, next, -, stays, rfl, rfl, hreaches, -⟩ := ho.round fair
    exact hreaches.orderly stays ho
  | edit namespaceList data =>
    obtain ⟨source, stored, stays, hkind⟩ := ho.stored
    have hkey := ho.keyed.sources key source stored
    simp only [Turn.take, stored]
    refine ⟨?_, ⟨_, (sources_putSource ..).trans (if_pos rfl), stays, hkind⟩, ?_⟩
    · rw [← hkey]
      exact ho.keyed.putSource { source with spec := { source.spec with namespaceList, data } }
    · rw [artifacts_putSource]
      exact ho.names
  | addNamespace ns =>
    refine ⟨⟨ho.keyed.sources, ?_⟩, ho.stored, ?_⟩
    · intro kind
      rw [Turn.artifacts_addNamespace]
      exact ho.keyed.artifacts kind
    · rw [Turn.artifacts_addNamespace]
      exact ho.names
  | loseArtifact lost place =>
    refine ⟨ho.keyed.removeArtifact lost place, ?_, ?_⟩
    · simp only [Turn.take, sources_removeArtifact]
      exact ho.stored
    · intro other artifact found howner
      simp only [Turn.take] at found
      by_cases hkind : kind = lost
      · subst hkind
        rw [artifacts_removeArtifact] at found
        split at found
        · cases found
        · exact ho.names other artifact found howner
      · rw [artifacts_removeArtifact_ne _ hkind] at found
        exact ho.names other artifact found howner

/-- Every turn leaves a source gone or on its way out that is. -/
theorem Leaves.take (h : cluster.Leaves key) {turn : Turn} (fair : turn.Fair) :
    (turn.take key cluster).Leaves key := by
  cases turn with
  | round rules =>
    have undisturbed : Simulation.Undisturbed Refusal.NotMissing { cluster, rules } :=
      ⟨fair.quiet, fair.refusals⟩
    exact undisturbed.reconcile_leaves h.reconcile_ensures
  | edit namespaceList data =>
    simp only [Turn.take]
    split
    · next source stored => exact h.putSource key (h source stored)
    · exact h
  | addNamespace ns => exact h
  | loseArtifact kind place => exact h.of_sources (sources_removeArtifact ..)

theorem orderly_afterTurns {turns : List Turn} (ho : cluster.Orderly key kind)
    (fair : ∀ turn ∈ turns, turn.Fair) : (cluster.afterTurns key turns).Orderly key kind := by
  refine List.foldlRecOn (motive := (Orderly · key kind)) turns _ ho fun cluster ho turn mem => ?_
  exact ho.take (fair turn mem)

theorem leaves_afterTurns {turns : List Turn} (h : cluster.Leaves key)
    (fair : ∀ turn ∈ turns, turn.Fair) : (cluster.afterTurns key turns).Leaves key := by
  refine List.foldlRecOn (motive := Leaves key) turns _ h fun cluster h turn mem => ?_
  exact h.take (fair turn mem)

theorem unlabelled_trial (namespaces : List String) (namespaceList : String)
    (kind : ArtifactKind) (key : ObjectKey) (ns : String) :
    ¬ (Cluster.trial namespaces namespaceList).Labelled kind key ns := by
  rintro ⟨name, artifact, found, -⟩
  rw [trial, artifacts_putSource] at found
  have hnone : (∅ : ObjectMap (Artifact kind))[(⟨ns, name⟩ : ObjectKey)]? = none :=
    Std.ExtTreeMap.getElem?_empty
  cases kind <;> exact absurd (hnone.symm.trans found) (by simp)

theorem fresh_trial (namespaces : List String) (namespaceList : String) :
    (Cluster.trial namespaces namespaceList).Fresh ⟨"default", "app-config"⟩
      ((ClusterConfig.trial namespaceList).atVersion 1) where
  keyed := keyed_trial namespaces namespaceList
  stored := (sources_putSource ..).trans (if_pos rfl)
  held := rfl
  status := rfl
  unlabelled := unlabelled_trial namespaces namespaceList _ _

end Cluster

end ConfigFanout
