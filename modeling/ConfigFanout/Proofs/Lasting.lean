import ConfigFanout.Proofs.Round
import ConfigFanout.Proofs.Walks

-- What a round keeps because none of its writes takes it away, whichever calls fail. To show
-- that a round keeps something it is enough to look at each kind of write once.
namespace ConfigFanout

namespace Cluster

/-- What holds of the source at hand and of the cluster still does when finalizers are written
and when a copy is taken away, which is all that is done for a source on its way out. -/
structure LastsCleanup (keeps : ClusterConfig → Cluster → Prop) : Prop where
  finalizers : ∀ {source stored : ClusterConfig} {cluster : Cluster} (finalizers : List String),
    keeps source cluster → cluster.sources[source.metadata.key]? = some stored →
    keeps ({ source.withFinalizers finalizers with
        status := stored.status }.atVersion cluster.nextVersion)
      (cluster.replaceSource { source.withFinalizers finalizers with status := stored.status })
  removal : ∀ {source : ClusterConfig} {cluster : Cluster} {ns : String}
    {artifact : Artifact source.spec.kind}, keeps source cluster → source.Named →
    (cluster.artifacts source.spec.kind)[(⟨ns, source.metadata.anyName⟩ : ObjectKey)]? =
      some artifact →
    artifact.otherOwner? source = none →
    keeps source (cluster.removeArtifact source.spec.kind ⟨ns, source.metadata.anyName⟩)

/-- It also does when the status is written and when a copy is brought up to date. -/
structure LastsRound (keeps : ClusterConfig → Cluster → Prop) : Prop
    extends LastsCleanup keeps where
  keyed : ∀ {source : ClusterConfig} {cluster : Cluster}, keeps source cluster →
    cluster.WellKeyed
  status : ∀ {source stored : ClusterConfig} {cluster : Cluster}
    (status : Option ClusterConfigStatus), keeps source cluster →
    cluster.sources[source.metadata.key]? = some stored →
    keeps ({ stored with status }.atVersion cluster.nextVersion)
      (cluster.putSource source.metadata.key { stored with status })
  placement : ∀ {source : ClusterConfig} {cluster after : Cluster} {ns : String}
    {outcome : Synced}, keeps source cluster → source.Named →
    cluster.Synchronized source source.spec.kind ⟨ns, source.metadata.anyName⟩ outcome after →
    keeps source after

variable {keeps : ClusterConfig → Cluster → Prop} {may : Refusal → Prop}
  {source : ClusterConfig} {cluster : Cluster}

/-- Asks of a program that something is kept, whichever calls fail and also where it fails. -/
def lasting (may : Refusal → Prop) (keeps : ClusterConfig → Cluster → Prop) : Judge Cluster :=
  (faulty may).judge fun _ after => ∃ stored, keeps stored after

/-- A part that fails without a change has kept it. -/
theorem lasts_of_ensures {α : Type} {program : Program α} {onDone holds : α → Cluster → Prop}
    {onFail : Error → Cluster → Prop} (hk : keeps source cluster)
    (h : program.Ensures (faulty may) cluster onDone onFail)
    (hfail : ∀ error after, onFail error after → after = cluster)
    (hdone : ∀ value after, onDone value after → holds value after) :
    program.Passes (lasting may keeps) cluster holds := by
  refine Program.Ensures.mono h hdone fun error after hfailed => ?_
  obtain rfl := hfail error after hfailed
  exact ⟨source, hk⟩

theorem resolve_lasts (hk : keeps source cluster) (raw : String) :
    (resolve raw).Passes (lasting may keeps) cluster fun _ => keeps source := by
  refine lasts_of_ensures hk (cluster.resolve_ensures raw) (fun _ _ => And.left) ?_
  rintro target after ⟨-, rfl⟩
  exact hk

/-! ## Sources on their way out -/

namespace LastsCleanup

theorem write_lasts (h : LastsCleanup keeps) (hk : keeps source cluster)
    (finalizers : List String) :
    (Program.ask (.updateSource (source.withFinalizers finalizers))).Passes (lasting may keeps)
      cluster keeps := by
  refine lasts_of_ensures hk (cluster.updateSource_ensures _) (fun _ _ => And.left) ?_
  rintro written after ⟨stored, hstored, rfl, rfl⟩
  exact h.finalizers finalizers hk hstored

theorem withdraw_lasts (h : LastsCleanup keeps) (hk : keeps source cluster) (ns : String) :
    (source.withdraw source.spec.kind ns).Passes (lasting may keeps) cluster
      fun _ => keeps source := by
  refine lasts_of_ensures hk (source.withdraw_ensures cluster _ ns) (fun _ _ => And.left) ?_
  rintro removal after ⟨named, hwithdrawn⟩
  cases hwithdrawn with
  | absent | foreign => exact hk
  | deleted found own => exact h.removal hk named found own

theorem departs (h : LastsCleanup keeps) (first : ClusterConfig) (target : TargetSet) :
    (lasting may keeps).Departs first target keeps fun _ => keeps where
  withdraw hk _ := h.withdraw_lasts hk _
  drop hk _ := ClusterConfig.passes_dropToken (fun _ => hk) fun _ => h.write_lasts hk _
  list {_ cluster} hk _ _ := by
    refine lasts_of_ensures hk cluster.listNamespaces_ensures (fun _ _ => And.left) ?_
    rintro live after ⟨-, rfl⟩
    exact hk
  sweep hk _ := h.withdraw_lasts hk _
  swept hk := hk

/-- What the parts of a round keep is kept by the whole, for a stored source on its way out. -/
theorem reconcile_ensures (h : LastsCleanup keeps) {key : ObjectKey}
    (stored : cluster.sources[key]? = some source) (leaves : source.isDeleting = true)
    (hk : keeps source cluster) :
    (reconcile key).Ensures (faulty may) cluster (fun _ after => ∃ stored, keeps stored after)
      fun _ after => ∃ stored, keeps stored after := by
  refine reconcile_of_attend stored (attend_of_round (round_of_leaves leaves ?_))
    (fun _ => ⟨source, hk⟩) fun _ => ⟨source, hk⟩
  refine ClusterConfig.passes_cleanup ((resolve_lasts hk _).mono fun target after hafter => ?_)
  exact ⟨keeps, fun _ => keeps, h.departs source target, hafter, fun stored _ h => ⟨stored, h⟩⟩

end LastsCleanup

/-! ## Sources that stay -/

namespace LastsRound

theorem recordProcessed_lasts (h : LastsRound keeps) (hk : keeps source cluster)
    (namespaces : List String) :
    (source.recordProcessed namespaces).Passes (lasting may keeps) cluster keeps := by
  refine ClusterConfig.passes_recordProcessed (fun _ => hk) fun _ => ?_
  refine lasts_of_ensures hk (cluster.updateStatus_ensures _) (fun _ _ => And.left) ?_
  rintro written after ⟨stored, hstored, rfl, rfl⟩
  have hnext := h.status (some ⟨namespaces⟩) hk hstored
  exact hnext

theorem synchronize_lasts (h : LastsRound keeps) (hk : keeps source cluster) (ns : String) :
    (source.synchronize source.spec.kind ns).Passes (lasting may keeps) cluster
      fun _ => keeps source :=
  lasts_of_ensures hk (source.synchronize_ensures (h.keyed hk) _ ns) (fun _ _ => And.left)
    fun _ _ hafter => h.placement hk hafter.1 hafter.2

theorem applies (h : LastsRound keeps) (target : TargetSet) (processed : List String) :
    (lasting may keeps).Applies target processed fun _ => keeps where
  withdraw hk _ := h.withdraw_lasts hk _
  drop hk _ := ClusterConfig.passes_dropToken (fun _ => hk) fun _ => h.write_lasts hk _
  record hk := h.recordProcessed_lasts hk _
  add hk _ := ClusterConfig.passes_addToken (fun _ => hk) fun _ => h.write_lasts hk _
  copy hk _ := h.synchronize_lasts hk _

/-- So it is for any stored source. -/
theorem reconcile_ensures (h : LastsRound keeps) {key : ObjectKey}
    (stored : cluster.sources[key]? = some source) (hk : keeps source cluster) :
    (reconcile key).Ensures (faulty may) cluster (fun _ after => ∃ stored, keeps stored after)
      fun _ after => ∃ stored, keeps stored after := by
  cases hleaves : source.isDeleting with
  | true => exact h.toLastsCleanup.reconcile_ensures stored hleaves hk
  | false =>
    refine reconcile_of_attend stored (attend_of_round (round_of_stays hleaves ?_))
      (fun _ => ⟨source, hk⟩) fun _ => ⟨source, hk⟩
    refine ClusterConfig.passes_apply
      ((resolve_lasts hk _).mono fun target after hafter => ?_)
    exact ⟨_, h.applies target _, hafter, fun _ stored _ h => ⟨stored, h⟩⟩

end LastsRound

end Cluster

end ConfigFanout
