import ConfigFanout.Proofs.Lasting

-- A source on its way out stays so: whatever its rounds do, it is not there afterwards as a
-- source that stays.
namespace ConfigFanout

namespace Cluster

/-- The source under a key is gone or on its way out. -/
def Leaves (key : ObjectKey) (cluster : Cluster) : Prop :=
  ∀ source, cluster.sources[key]? = some source → source.isDeleting = true

variable {key : ObjectKey} {cluster : Cluster} {source : ClusterConfig}
  {may : Refusal → Prop}

theorem Leaves.of_sources {after : Cluster} (h : cluster.Leaves key)
    (sources : after.sources = cluster.sources) : after.Leaves key := by
  unfold Leaves
  rw [sources]
  exact h

theorem Leaves.putSource (h : cluster.Leaves key) (place : ObjectKey)
    (leaves : source.isDeleting = true) : (cluster.putSource place source).Leaves key := by
  intro stored hs
  rw [sources_putSource] at hs
  split at hs
  · cases hs
    exact leaves
  · exact h stored hs

theorem Leaves.removeSource (h : cluster.Leaves key) (place : ObjectKey) :
    (cluster.removeSource place).Leaves key := by
  intro stored hs
  rw [sources_removeSource] at hs
  split at hs
  · cases hs
  · exact h stored hs

theorem lastsCleanup_leaves (key : ObjectKey) :
    LastsCleanup fun source cluster => source.isDeleting = true ∧ cluster.Leaves key where
  finalizers finalizers hleaves _ := by
    obtain ⟨leaves, h⟩ := hleaves
    refine ⟨leaves, ?_⟩
    unfold replaceSource
    split
    · refine (h.putSource _ ?_).removeSource _
      exact leaves
    · refine h.putSource _ ?_
      exact leaves
  removal hleaves _ _ _ := ⟨hleaves.1, hleaves.2.of_sources (sources_removeArtifact ..)⟩

/-- A round for a source that is gone or on its way out leaves it so. -/
theorem Leaves.reconcile_ensures (h : cluster.Leaves key) :
    (reconcile key).Ensures (Cluster.faulty may) cluster
      (fun _ after => after.Leaves key) fun _ after => after.Leaves key := by
  cases hstored : cluster.sources[key]? with
  | none =>
    refine (reconcile_of_missing hstored).mono ?_ ?_
    · rintro _ after rfl
      exact h
    · rintro _ after rfl
      exact h
  | some source =>
    have leaves := h source hstored
    refine ((lastsCleanup_leaves key).reconcile_ensures hstored leaves ⟨leaves, h⟩).mono ?_ ?_
    · exact fun _ after ⟨_, hboth⟩ => hboth.2
    · exact fun _ after ⟨_, hboth⟩ => hboth.2

end Cluster

end ConfigFanout
