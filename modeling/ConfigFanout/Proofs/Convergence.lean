import ConfigFanout.Proofs.Round

-- What a round that succeeds has achieved, whatever it started from and whichever calls
-- failed on the way.
namespace ConfigFanout

/-- All that a source asks for is there: in every namespace of the target a copy that carries
its data and names it, a status with these namespaces, and their tokens. A source that goes
to all namespaces holds no token of a single one. -/
structure Cluster.Converged (cluster : Cluster) (key : ObjectKey) (source : ClusterConfig)
    (target : TargetSet) : Prop where
  copies : ∀ ns ∈ target.namespaces, ∃ artifact : Artifact source.spec.kind,
    (cluster.artifacts source.spec.kind)[(⟨ns, key.name⟩ : ObjectKey)]? = some artifact ∧
      artifact.payload = source.spec.kind.payload source ∧ artifact.owner? = some key
  stored : ∃ final, cluster.sources[key]? = some final ∧
    final.status = some ⟨target.namespaces⟩ ∧
    (∀ token ∈ target.tokens, final.holds token = true) ∧
    (target.all = true → final.namespaceTokens = [])

namespace Cluster

variable {may : Refusal → Prop} {base : ClusterConfig} {origin after : Cluster}
  {target : TargetSet}

theorem Succeeds.converged (h : Succeeds may base origin target after) :
    after.Converged base.metadata.key base target := by
  obtain ⟨middle, -, hbring, hreaches⟩ := h
  obtain ⟨final, stored, -⟩ := hreaches.stays
  have hheld : final.metadata.held = (middle.finished target).tokens := by
    rw [← tokens_holdings stored, hreaches.holds]
  constructor
  · intro ns mem
    have hcopy : (after.holdings base).copies ns =
        some (base.upToDate ns (middle.copies ns)) := by
      rw [hreaches.holds, Holdings.copies_finished hbring, if_pos mem]
    obtain ⟨artifact, found, heq⟩ := exists_of_copies hcopy
    obtain ⟨howner, hpayload⟩ := Holdings.upToDate_carries ns (hbring ns mem).own
    rw [← heq] at howner hpayload
    exact ⟨artifact, found, hpayload, howner⟩
  · refine ⟨final, stored, ?_, ?_, ?_⟩
    · rw [← status_holdings stored, hreaches.holds, Holdings.status_finished]
    · intro token mem
      rw [ClusterConfig.holds, hheld, List.contains_iff_mem, Holdings.mem_tokens_finished]
      exact ⟨.inr mem, Holdings.keeps_of_mem_tokens mem⟩
    · intro hall
      rw [ClusterConfig.namespaceTokens, hheld, List.filter_eq_nil_iff]
      intro token mem hnamespace
      exact (Holdings.mem_tokens_finished.mp mem).2 ⟨hall, hnamespace⟩

end Cluster

/-- A round that succeeds has achieved all that the source asks for, whichever calls failed,
if the store did not report the source itself as missing. -/
theorem a_round_that_succeeds_converges {may : Refusal → Prop} {simulation : Simulation}
    {key : ObjectKey} {source : ClusterConfig} {action : Action}
    (undisturbed : simulation.Undisturbed may) (keyed : simulation.cluster.WellKeyed)
    (stored : simulation.cluster.sources[key]? = some source)
    (stays : source.isDeleting = false)
    (found : ∀ error, (simulation.answer (.getSource key)).1 = .error error →
      error.isNotFound = false)
    (succeeds : (simulation.reconcile key).1 = .ok action) :
    (simulation.reconcile key).2.cluster.Converged key source
      (NamespaceList.target source.spec.namespaceList simulation.cluster.namespaces) := by
  have hkey : source.metadata.key = key := keyed.sources key source stored
  have hnext := undisturbed.answer (.getSource key)
  have hlookup := undisturbed.answer_eq (.getSource key)
  have hrun : simulation.reconcile key =
      (Cluster.attend (simulation.answer (.getSource key)).1).run Simulation.store
        (simulation.answer (.getSource key)).2 := by
    unfold Simulation.reconcile
    rw [Cluster.reconcile_eq]
    rfl
  rw [hrun] at succeeds ⊢
  rcases hfetched : simulation.answer (.getSource key) with ⟨fetched, next⟩
  rw [hfetched] at hnext hlookup found succeeds
  dsimp only at hnext hlookup found succeeds ⊢
  cases fetched with
  | error error =>
    rw [Cluster.attend, found error rfl, if_neg Bool.false_ne_true] at succeeds
    cases succeeds
  | ok value =>
    -- The source that came back is the stored one.
    have hsame : value = source ∧ next.cluster = simulation.cluster := by
      split at hlookup
      · cases hlookup
      · simp only [Cluster.answer, Cluster.perform, Cluster.find, stored, bind, Except.bind,
          pure, Except.pure, Prod.mk.injEq, Except.ok.injEq] at hlookup
        exact hlookup
    obtain ⟨hvalue, hcluster⟩ := hsame
    rw [hvalue] at succeeds ⊢
    rw [← hcluster] at keyed stored ⊢
    subst hkey
    have hensures : (Cluster.attend (.ok source)).Ensures (Cluster.faulty may) _ _ _ :=
      Cluster.attend_ensures keyed stored rfl stays rfl
    exact ((hensures.simulate hnext).1 action _ (Prod.ext succeeds rfl)).converged

/-- A store that calls a copy missing where there is none does not keep a round from
succeeding. -/
theorem a_round_converges_where_copies_are_reported_missing :
    ((Simulation.reconcile
      { cluster := .trial ["a", "b"] "a,b",
        rules := [{ on := "get ConfigMap *", refusal := some { code := 404 } }] }
      ⟨"default", "app-config"⟩).2.cluster).Converged ⟨"default", "app-config"⟩
      ((ClusterConfig.trial "a,b").atVersion 1) (NamespaceList.target "a,b" ["a", "b"]) :=
  have fetched : (Simulation.answer (.getSource ⟨"default", "app-config"⟩)
      { cluster := .trial ["a", "b"] "a,b",
        rules := [{ on := "get ConfigMap *", refusal := some { code := 404 } }] }).1 =
      .ok ((ClusterConfig.trial "a,b").atVersion 1) := by decide +kernel
  @a_round_that_succeeds_converges (fun _ => True) _ _ _ .awaitChange
    ⟨by simp, by simp⟩ (Cluster.keyed_trial _ _) (by decide +kernel) (by decide +kernel)
    (fun error h => by rw [fetched] at h; cases h) (by decide +kernel)

/-- A round whose source is reported as missing succeeds too, and has done nothing. -/
theorem a_source_reported_missing_is_passed_over :
    ∃ (simulation : Simulation) (key : ObjectKey) (source : ClusterConfig) (action : Action),
      simulation.Undisturbed (fun _ => True) ∧ simulation.cluster.WellKeyed ∧
      simulation.cluster.sources[key]? = some source ∧ source.isDeleting = false ∧
      (simulation.reconcile key).1 = .ok action ∧
      ¬ (simulation.reconcile key).2.cluster.Converged key source
        (NamespaceList.target source.spec.namespaceList simulation.cluster.namespaces) := by
  refine ⟨{ cluster := .trial ["a"] "a",
            rules := [{ on := "get_source *", refusal := some { code := 404 } }] },
    ⟨"default", "app-config"⟩, (ClusterConfig.trial "a").atVersion 1, .awaitChange,
    ⟨by simp, by simp⟩, Cluster.keyed_trial _ _, by decide +kernel, by decide +kernel,
    by decide +kernel, fun h => ?_⟩
  obtain ⟨final, stored, hstatus, -⟩ := h.stored
  have hfinal : final = (ClusterConfig.trial "a").atVersion 1 :=
    Option.some.inj (stored.symm.trans (by decide +kernel))
  rw [hfinal] at hstatus
  cases hstatus

end ConfigFanout
