import ConfigFanout.Proofs.Teardown

-- Where the tokens of a source come from in the course of a run, and whether the last of them
-- goes when the source does.
namespace ConfigFanout

/-- The list of namespaces that a turn gives to the source, if it gives one. -/
def Turn.list? : Turn → Option String
  | .edit namespaceList _ => some namespaceList
  | .round _ | .addNamespace _ | .loseArtifact .. => none

/-- The tokens of a source that stays and has a name are all entries of some lists of
namespaces, or the one for all of them, and its own list is among these. -/
structure ClusterConfig.Credited (source : ClusterConfig) (lists : List String) : Prop where
  stays : source.isDeleting = false
  named : source.Named
  listed : source.spec.namespaceList ∈ lists
  held : ∀ token ∈ source.metadata.held,
    token = everyToken ∨ ∃ raw ∈ lists, token ∈ NamespaceList.parse raw

namespace Cluster

variable {base source : ClusterConfig} {cluster after : Cluster} {key : ObjectKey}
  {lists : List String}

/-- The source under a key is stored so. -/
structure Credits (cluster : Cluster) (key : ObjectKey) (lists : List String) : Prop where
  keyed : cluster.WellKeyed
  stored : ∃ source, cluster.sources[key]? = some source ∧ source.Credited lists

/-- A round puts up no tokens but those of its target. -/
theorem Credits.round (h : cluster.Credits key lists) {rules : List (Rule Change)}
    (fair : (Turn.round rules).Fair) : ((Turn.round rules).take key cluster).Credits key lists := by
  obtain ⟨base, stored, hcredited⟩ := h.stored
  obtain rfl := h.keyed.sources key base stored
  obtain ⟨next, hreaches, hnext⟩ := h.keyed.round stored hcredited.stays fair
  obtain ⟨source, hsource, alike⟩ := hreaches.stays
  have hheld : next.tokens = source.metadata.held := by
    rw [← tokens_holdings hsource, hreaches.holds]
  -- What is held afterwards was held before or belongs to the target.
  have hbefore : ∀ token ∈ next.tokens, token ∈ base.metadata.held ∨ token ∈
      (NamespaceList.target base.spec.namespaceList cluster.namespaces).tokens := by
    intro token mem
    rw [← tokens_holdings stored]
    rcases hnext with ⟨-, rfl, -⟩ | ⟨-, hinterrupted⟩
    · exact (Holdings.mem_tokens_finished.mp mem).1.imp_left
        fun hretired => (Holdings.mem_tokens_retired.mp hretired).1
    · exact hinterrupted.of_mem_tokens mem
  refine ⟨hreaches.keyed, source, hsource, ?_, ?_, ?_, ?_⟩
  · exact (ClusterConfig.deleting_of_alike alike).trans hcredited.stays
  · exact (ClusterConfig.named_of_alike alike).mpr hcredited.named
  · rw [ClusterConfig.spec_of_alike alike]
    exact hcredited.listed
  · intro token mem
    rcases hbefore token (hheld ▸ mem) with hold | hnew
    · exact hcredited.held token hold
    · exact .inr ⟨_, hcredited.listed, NamespaceList.mem_parse_of_mem_tokens hnew⟩

/-- A turn keeps the tokens to the lists, if the list that it gives is one of them. -/
theorem Credits.take (h : cluster.Credits key lists) {turn : Turn} (fair : turn.Fair)
    (listed : ∀ raw, turn.list? = some raw → raw ∈ lists) :
    (turn.take key cluster).Credits key lists := by
  cases turn with
  | round rules => exact h.round fair
  | edit namespaceList data =>
    obtain ⟨source, stored, hcredited⟩ := h.stored
    have hkey := h.keyed.sources key source stored
    simp only [Turn.take, stored]
    refine ⟨?_, _, (sources_putSource ..).trans (if_pos rfl), hcredited.stays, hcredited.named,
      listed _ rfl, hcredited.held⟩
    rw [← hkey]
    exact h.keyed.putSource { source with spec := { source.spec with namespaceList, data } }
  | addNamespace ns =>
    refine ⟨⟨h.keyed.sources, fun kind => ?_⟩, h.stored⟩
    rw [Turn.artifacts_addNamespace]
    exact h.keyed.artifacts kind
  | loseArtifact kind place =>
    refine ⟨h.keyed.removeArtifact kind place, ?_⟩
    simp only [Turn.take, sources_removeArtifact]
    exact h.stored

theorem credits_afterTurns {turns : List Turn} (h : cluster.Credits key lists)
    (fair : ∀ turn ∈ turns, turn.Fair)
    (listed : ∀ turn ∈ turns, ∀ raw, turn.list? = some raw → raw ∈ lists) :
    (cluster.afterTurns key turns).Credits key lists := by
  refine List.foldlRecOn (motive := (Credits · key lists)) turns _ h fun cluster h turn mem => ?_
  exact h.take (fair turn mem) (listed turn mem)

end Cluster

/-- A source that came by its tokens through rounds, and whose end is asked for while it holds
some, is gone after one round without refusals, unless a token that it holds looks like a
finalizer of others and is no entry of the explicit list that it has at the end. No token does
where no list of the run has such an entry. -/
theorem a_source_is_gone_with_its_last_token {cluster : Cluster} {key : ObjectKey}
    {source last : ClusterConfig} {turns : List Turn} {target : TargetSet} (time : Timestamp)
    (keyed : cluster.WellKeyed) (stored : cluster.sources[key]? = some source)
    (named : source.Named) (stays : source.isDeleting = false)
    (unheld : source.metadata.held = []) (fair : ∀ turn ∈ turns, turn.Fair)
    (final : (cluster.afterTurns key turns).sources[key]? = some last)
    (holds : last.metadata.held ≠ [])
    (htarget : NamespaceList.target last.spec.namespaceList
      (cluster.afterTurns key turns).namespaces = target) :
    (∃ action, ((cluster.afterTurns key turns).ended key time).1 = .ok action) ∧
    (((cluster.afterTurns key turns).ended key time).2.cluster.sources[key]? = none ↔
      ∀ token ∈ last.metadata.held, isForeignFinalizer token = true →
        target.all = false ∧ token ∈ target.namespaces) ∧
    ((∀ raw ∈ source.spec.namespaceList :: turns.filterMap Turn.list?,
        ∀ entry ∈ NamespaceList.parse raw, isForeignFinalizer entry = false) →
      ((cluster.afterTurns key turns).ended key time).2.cluster.sources[key]? = none) := by
  have hcredits : (cluster.afterTurns key turns).Credits key
      (source.spec.namespaceList :: turns.filterMap Turn.list?) := by
    refine Cluster.credits_afterTurns ⟨keyed, source, stored, stays, named, List.mem_cons_self, ?_⟩
      fair fun turn mem raw hraw => ?_
    · rw [unheld]
      exact fun _ mem => absurd mem List.not_mem_nil
    · exact List.mem_cons_of_mem _ (List.mem_filterMap.mpr ⟨turn, mem, hraw⟩)
  obtain ⟨found, hfound, hcredited⟩ := hcredits.stored
  obtain rfl := Option.some.inj (hfound.symm.trans final)
  obtain rfl := hcredits.keyed.sources key found hfound
  obtain ⟨hok, gone, hdeparting⟩ := hcredits.keyed.ended hfound hcredited.named time
  have hgone : ((cluster.afterTurns found.metadata.key turns).ended
      found.metadata.key time).2.cluster.sources[found.metadata.key]? = none ↔
        ∀ token ∈ found.metadata.held, isForeignFinalizer token = true →
          target.all = false ∧ token ∈ target.namespaces := by
    refine hdeparting.gone_iff.trans (Iff.trans (and_iff_right holds) ?_)
    exact forall_congr' fun token => imp_congr_right fun held =>
      ClusterConfig.token_mem_undoings htarget held
  refine ⟨hok, hgone, fun hlists => hgone.mpr fun token held hforeign => ?_⟩
  rcases hcredited.held token held with rfl | ⟨raw, listed, hentry⟩
  · exact absurd hforeign (by decide)
  · rw [hlists raw listed token hentry] at hforeign
    cases hforeign

/-- The turns of a source that goes to all namespaces after it was in a single one. -/
def Turn.widening : List Turn :=
  [.round [], .edit "all" {("k", "v")}, .round []]

/-- A source that was in a namespace named like a finalizer of the cluster before it went to all
of them stays for ever: the token of that namespace is taken for one of others. -/
theorem a_token_taken_for_one_of_others_is_kept :
    ∃ last, ((Cluster.trial ["kubernetes"] "kubernetes").afterTurns ⟨"default", "app-config"⟩
        Turn.widening).sources[(⟨"default", "app-config"⟩ : ObjectKey)]? = some last ∧
      last.metadata.held = ["kubernetes", "all"] ∧
      (((Cluster.trial ["kubernetes"] "kubernetes").afterTurns ⟨"default", "app-config"⟩
        Turn.widening).ended ⟨"default", "app-config"⟩
        Simulation.endOfSources).2.cluster.sources[(⟨"default", "app-config"⟩ : ObjectKey)]? ≠
          none := by
  have hheld : (((Cluster.trial ["kubernetes"] "kubernetes").afterTurns
      ⟨"default", "app-config"⟩ Turn.widening).sources[
        (⟨"default", "app-config"⟩ : ObjectKey)]?).map
      (fun source => (source.metadata.held, source.spec.namespaceList)) =
        some (["kubernetes", "all"], "all") := by decide +kernel
  obtain ⟨last, final, hlast⟩ := Option.map_eq_some_iff.mp hheld
  rw [Prod.mk.injEq] at hlast
  refine ⟨last, final, hlast.1, fun hgone => ?_⟩
  obtain ⟨-, hgone_iff, -⟩ := a_source_is_gone_with_its_last_token Simulation.endOfSources
    (Cluster.keyed_trial _ _) (Cluster.fresh_trial _ _).stored ⟨"app-config", rfl⟩ rfl rfl
    (by simp [Turn.widening]) final (by rw [hlast.1]; simp) rfl
  have hlisted := hgone_iff.mp hgone "kubernetes" (by simp [hlast.1]) (by decide)
  rw [hlast.2] at hlisted
  exact absurd hlisted.1 (by decide +kernel)

end ConfigFanout
