import ConfigFanout.Proofs.SharedToken

-- When the token of a single namespace goes: its namespace holds nothing then that the source
-- might have put there, or the token for all namespaces stays and guards it from then on. A round
-- that is cut short keeps to that wherever it stops.
namespace ConfigFanout

namespace Holdings

variable {base : ClusterConfig} {holdings next : Holdings base.spec.kind} {target : TargetSet}
  {live : List String} {ns token : String}

/-- Nothing in a namespace bears the name of the source, unless it belongs to another one. -/
def Vacant (holdings : Holdings base.spec.kind) (ns : String) : Prop :=
  ∀ copy, holdings.copies ns = some copy → (copy.otherOwner? base).isSome

theorem Vacant.of_copies (h : holdings.Vacant ns) (heq : next.copies ns = holdings.copies ns) :
    next.Vacant ns := by
  unfold Vacant
  rw [heq]
  exact h

theorem vacant_cleared {gone : List String} (mem : ns ∈ gone) :
    (holdings.cleared gone).Vacant ns := by
  intro copy hcopy
  rw [copies_cleared, if_pos mem] at hcopy
  exact (Option.filter_eq_some_iff.mp hcopy).2

/-- Taking a copy away leaves a vacant namespace vacant. -/
theorem Vacant.withdraw (h : holdings.Vacant ns) (other : String) :
    (holdings.withdraw other).Vacant ns := by
  intro copy hcopy
  rw [copies_withdraw] at hcopy
  split at hcopy
  · exact (Option.filter_eq_some_iff.mp hcopy).2
  · exact h copy hcopy

theorem vacant_pruned (reached : token ∈ holdings.reach (holdings.stale target)) :
    (holdings.pruned target).Vacant token :=
  vacant_cleared reached

/-- What was stale when its token went stays vacant while the copies where the source goes are
brought up to date. -/
theorem vacant_brought {done rest : List String} (heq : done ++ rest = target.namespaces)
    (reached : token ∈ holdings.reach (holdings.stale target)) :
    (((holdings.retired target).guarded target).brought done).Vacant token := by
  have fresh : token ∉ done := fun mem =>
    not_mem_stale (heq ▸ List.mem_append_left _ mem) (mem_of_mem_reach reached)
  refine (vacant_pruned reached).of_copies ?_
  rw [copies_brought_of_not_mem fresh, copies_guarded, copies_retired_eq]

/-- Of the tokens of single namespaces those go, while stale copies are taken away, whose
namespaces are reached. -/
theorem reached_of_retired (other : token ≠ everyToken) (held : token ∈ holdings.tokens)
    (released : token ∉ (holdings.retired target).tokens) :
    token ∈ holdings.reach (holdings.stale target) := by
  refine Decidable.byContradiction fun hnot => released ?_
  exact mem_tokens_retired.mpr ⟨held, hnot, fun hboth => other hboth.1⟩

theorem reached_of_guarded (other : token ≠ everyToken) (held : token ∈ holdings.tokens)
    (released : token ∉ ((holdings.retired target).guarded target).tokens) :
    token ∈ holdings.reach (holdings.stale target) :=
  reached_of_retired other held fun mem => released (mem_tokens_guarded.mpr (.inl mem))

/-- The token for all namespaces stays while those of single namespaces go. -/
theorem every_mem_settling {tokens : List String} (hall : target.all = true)
    (htokens : ∀ token ∈ tokens, ofNamespace token = true) :
    everyToken ∈ (tokens.foldl drop
      (((holdings.retired target).guarded target).brought target.namespaces)).tokens := by
  rw [mem_tokens_foldl_drop, tokens_brought, mem_tokens_guarded, TargetSet.tokens, if_pos hall]
  refine ⟨.inr (List.mem_singleton_self _), fun mem => ?_⟩
  exact absurd (htokens everyToken mem) (by decide)

/-- At the end of a round the namespace of a token that went is vacant, unless the token for all
namespaces is held. -/
theorem vacant_settled (other : token ≠ everyToken) (held : token ∈ holdings.tokens)
    (released : token ∉ ((((holdings.retired target).guarded target).brought
      target.namespaces).settled target).tokens) :
    ((((holdings.retired target).guarded target).brought target.namespaces).settled target).Vacant
        token ∨
      everyToken ∈ ((((holdings.retired target).guarded target).brought
        target.namespaces).settled target).tokens := by
  unfold settled at released ⊢
  by_cases hall : target.all
  · rw [if_pos hall]
    exact .inr (every_mem_settling hall fun token mem => (List.mem_filter.mp mem).2)
  · rw [if_neg hall] at released ⊢
    rw [tokens_brought] at released
    exact .inl (vacant_brought (List.append_nil _) (reached_of_guarded other held released))

/-- So it is wherever a round is cut short. -/
theorem Interrupted.vacant (h : holdings.Interrupted target live next)
    (other : token ≠ everyToken) (held : token ∈ holdings.tokens)
    (released : token ∉ next.tokens) : next.Vacant token ∨ everyToken ∈ next.tokens := by
  have hgone : ∀ {gone : List String}, token ∉ (holdings.cleared gone).tokens → token ∈ gone :=
    fun released => Decidable.byContradiction fun hnot =>
      released (mem_tokens_cleared.mpr ⟨held, hnot⟩)
  -- Tokens go while stale copies are taken away, which leaves their namespaces vacant, and once
  -- more at the end, when the token for all namespaces is up. Copies come only in between.
  cases h with
  | clearing hclearing =>
    cases hclearing with
    | before => exact .inl (vacant_cleared (hgone released))
    | @between _ _ ns => exact .inl ((vacant_cleared (hgone released)).withdraw ns)
  | releasing => exact .inl (vacant_cleared (hgone released))
  | retiring =>
    have hreached : token ∈ holdings.reach (holdings.stale target) := by
      refine Decidable.byContradiction fun hnot => released ?_
      exact mem_tokens_released.mpr ⟨held, hnot, fun hboth => other hboth.1⟩
    refine .inl ((vacant_pruned hreached).of_copies ?_)
    rw [copies_released]
  | guarding =>
    have hreached := reached_of_retired other held fun mem =>
      released (mem_tokens_foldl_add.mpr (.inl mem))
    refine .inl ((vacant_pruned hreached).of_copies ?_)
    rw [copies_foldl_add, copies_retired_eq]
  | bringing heq =>
    rw [tokens_brought] at released
    exact .inl (vacant_brought heq (reached_of_guarded other held released))
  | settling hall _ heq =>
    refine .inr (every_mem_settling hall fun token mem => ?_)
    exact (List.mem_filter.mp (heq ▸ List.mem_append_left _ mem)).2
  | recording => exact vacant_settled other held released

end Holdings

/-- A source on its way out drops the token of a namespace after the copy there, or after those in
all namespaces. -/
theorem ClusterConfig.copy_taken_of_dropped {source : ClusterConfig} {live : List String}
    {done rest : List Undoing} (heq : done ++ rest = source.undoings live) {token : String}
    (other : token ≠ everyToken) (dropped : .token token ∈ done) :
    .copy token ∈ done ∨ token ∉ live := by
  obtain ⟨target, htarget⟩ : ∃ target, NamespaceList.target source.spec.namespaceList live =
    target := ⟨_, rfl⟩
  have planned : .token token ∈ source.undoings live := heq ▸ List.mem_append_left _ dropped
  rw [undoings, htarget] at heq planned
  by_cases hall : target.all
  · rw [if_pos hall, Undoing.sweeping] at heq
    by_cases hlive : token ∈ live
    · refine .inl (Undoing.mem_of_taken heq dropped (by simp) _ (List.mem_map_of_mem ?_))
      exact (NamespaceList.mem_target_of_all htarget hall).mpr hlive
    · exact .inr hlive
  · rw [if_neg hall] at heq planned
    -- What comes after the list drops no token of a single namespace.
    have listed : token ∈ target.namespaces ++
        NamespaceList.stale target.namespaces source.namespaceTokens := by
      rw [List.mem_append] at planned
      refine planned.elim Undoing.token_mem_clearing.mp fun hsweep => ?_
      split at hsweep
      · rw [Undoing.token_mem_sweeping] at hsweep
        exact absurd hsweep (by simp [other])
      · cases hsweep
    obtain ⟨before, after, hsplit, fresh⟩ := List.eq_append_cons_of_mem listed
    rw [hsplit, Undoing.clearing_append_cons, List.append_assoc] at heq
    exact .inl (Undoing.mem_of_taken heq dropped (by simp [fresh]) _ (by simp))

/-- All artifacts are in namespaces that are there. -/
def Cluster.Housed (cluster : Cluster) : Prop :=
  ∀ (kind : ArtifactKind) (place : ObjectKey) (artifact : Artifact kind),
    (cluster.artifacts kind)[place]? = some artifact → place.ns ∈ cluster.namespaces

/-- Where a source would have its copy in a namespace is nothing, or what belongs to another
source. -/
def Cluster.Vacated (cluster : Cluster) (source : ClusterConfig) (ns : String) : Prop :=
  ∀ artifact : Artifact source.spec.kind,
    (cluster.artifacts source.spec.kind)[(⟨ns, source.metadata.anyName⟩ : ObjectKey)]? =
      some artifact →
    artifact.owner? ≠ none ∧ artifact.owner? ≠ some source.metadata.key

namespace Cluster

variable {base source : ClusterConfig} {origin cluster : Cluster} {done : List Undoing}
  {holdings : Holdings base.spec.kind} {ns token : String}

theorem Housed.putArtifact (h : cluster.Housed) {kind : ArtifactKind} {artifact : Artifact kind}
    (live : artifact.metadata.key.ns ∈ cluster.namespaces) :
    (cluster.putArtifact artifact).Housed := by
  intro other place found hfound
  rw [namespaces_putArtifact]
  by_cases hkind : other = kind
  · subst hkind
    rw [artifacts_putArtifact] at hfound
    split at hfound
    · next hplace => exact hplace ▸ live
    · exact h _ place found hfound
  · rw [artifacts_putArtifact_ne _ hkind] at hfound
    exact h _ place found hfound

theorem foreign_of_otherOwner? {kind : ArtifactKind} {artifact : Artifact kind}
    (h : (artifact.otherOwner? base).isSome) :
    artifact.owner? ≠ none ∧ artifact.owner? ≠ some base.metadata.key := by
  rw [← not_or, ← artifact.otherOwner?_eq_none]
  exact Option.isSome_iff_ne_none.mp h

theorem Reaches.vacated (h : origin.Reaches base holdings cluster) (vacant : holdings.Vacant ns) :
    cluster.Vacated base ns := by
  intro artifact found
  refine foreign_of_otherOwner? (vacant artifact.sansVersion ?_)
  rw [← h.holds, copies_holdings, found]
  rfl

theorem Departing.vacated (h : Departing base origin done source cluster)
    (taken : .copy ns ∈ done) : cluster.Vacated base ns := by
  intro artifact found
  rw [h.copies, copyAfter, if_pos taken] at found
  exact foreign_of_otherOwner? (Option.filter_eq_some_iff.mp found).2

/-- There is nothing in a namespace that was not there. -/
theorem Departing.vacated_of_unhoused (h : Departing base origin done source cluster)
    (housed : origin.Housed) (missing : ns ∉ origin.namespaces) : cluster.Vacated base ns := by
  intro artifact found
  have hnone : (origin.artifacts base.spec.kind)[(⟨ns, base.metadata.anyName⟩ : ObjectKey)]? =
      none :=
    Option.eq_none_iff_forall_ne_some.mpr fun artifact found => missing (housed _ _ _ found)
  rw [h.copies, copyAfter, hnone, Option.filter_none, ite_self] at found
  cases found

/-- After a round for a source that stays the namespace of a token that went is vacated, or the
token for all namespaces is held. -/
theorem Reaches.vacated_or_holds (h : origin.Reaches base holdings cluster)
    (hvacant : token ∉ holdings.tokens → holdings.Vacant token ∨ everyToken ∈ holdings.tokens)
    (released : ∀ final, cluster.sources[base.metadata.key]? = some final →
      final.holds token = false) :
    cluster.Vacated base token ∨
      ∃ final, cluster.sources[base.metadata.key]? = some final ∧
        final.holds everyToken = true := by
  obtain ⟨final, hfinal, -⟩ := h.stays
  have htokens : holdings.tokens = final.metadata.held := by
    rw [← h.holds, tokens_holdings hfinal]
  have hgone : token ∉ holdings.tokens := by
    rw [htokens]
    exact fun mem => Bool.false_ne_true ((released final hfinal).symm.trans
      (List.contains_iff_mem.mpr mem))
  refine (hvacant hgone).imp h.vacated fun hevery => ⟨final, hfinal, ?_⟩
  exact List.contains_iff_mem.mpr (htokens ▸ hevery)

end Cluster

/-- Where no call is reported as missing its object, a source that held the token of a namespace
before a round and does not hold it afterwards, or is gone, has nothing left in that namespace, or
it holds the token for all namespaces. -/
theorem a_token_goes_from_a_vacated_namespace {may : Refusal → Prop} {simulation : Simulation}
    {key : ObjectKey} {source : ClusterConfig} (undisturbed : simulation.Undisturbed may)
    (keeps : ¬ Refusal.Loses may) (keyed : simulation.cluster.WellKeyed)
    (housed : simulation.cluster.Housed)
    (stored : simulation.cluster.sources[key]? = some source) {token : String}
    (other : token ≠ everyToken) (held : source.holds token = true)
    (released : ∀ final, (simulation.reconcile key).2.cluster.sources[key]? = some final →
      final.holds token = false) :
    (simulation.reconcile key).2.cluster.Vacated source token ∨
      ∃ final, (simulation.reconcile key).2.cluster.sources[key]? = some final ∧
        final.holds everyToken = true := by
  obtain rfl := keyed.sources key source stored
  cases hleaves : source.isDeleting with
  | true =>
    obtain ⟨done, rest, final, heq, hdeparting⟩ :=
      undisturbed.departing keeps keyed stored hleaves
    have hdropped := hdeparting.dropped held released
    refine .inl ((ClusterConfig.copy_taken_of_dropped heq other hdropped).elim ?_ ?_)
    · exact hdeparting.vacated
    · exact hdeparting.vacated_of_unhoused housed
  | false =>
    have mem : token ∈ (simulation.cluster.holdings source).tokens := by
      rw [Cluster.tokens_holdings stored]
      exact List.contains_iff_mem.mp held
    cases hresult : (simulation.reconcile source.metadata.key).1 with
    | ok action =>
      obtain ⟨-, hreaches⟩ := undisturbed.reconcile_ok keeps keyed stored rfl hleaves rfl hresult
      exact hreaches.vacated_or_holds (Holdings.vacant_settled other mem) released
    | error error =>
      obtain ⟨⟨next, hinterrupted, hreaches⟩, -⟩ :=
        undisturbed.reconcile_error keeps keyed stored rfl hleaves rfl hresult
      exact hreaches.vacated_or_holds (hinterrupted.vacant other mem) released

/-- A source on its way out that has gone to two namespaces. -/
def ClusterConfig.leaving : ClusterConfig :=
  { ClusterConfig.trial "a,b" with
    metadata := {
      name := some "app-config"
      ns := some "default"
      finalizers := some ["a", "b"]
      deletionTimestamp := some Simulation.endOfSources }
    status := some ⟨["a", "b"]⟩ }

/-- A round for it, when its copy in the second namespace cannot be deleted. -/
def Simulation.leaving : Simulation where
  cluster := ((({ namespaces := ["a", "b"] } : Cluster).putSource ⟨"default", "app-config"⟩
    .leaving).putArtifact (ClusterConfig.leaving.newCopy .configMap "app-config" "a")).putArtifact
      (ClusterConfig.leaving.newCopy .configMap "app-config" "b")
  rules := [{ on := "delete ConfigMap b/*", refusal := some { code := 500 } }]

/-- It has dropped the token of the first one, which is vacated, and kept the other. -/
theorem the_token_of_the_first_namespace_goes_alone :
    ((Simulation.leaving.reconcile ⟨"default", "app-config"⟩).2.cluster.sources[
        (⟨"default", "app-config"⟩ : ObjectKey)]?).map (·.metadata.held) = some ["b"] ∧
      (Simulation.leaving.reconcile ⟨"default", "app-config"⟩).2.cluster.Vacated .leaving "a" := by
  have hheld : ((Simulation.leaving.reconcile ⟨"default", "app-config"⟩).2.cluster.sources[
      (⟨"default", "app-config"⟩ : ObjectKey)]?).map (·.metadata.held) = some ["b"] := by
    decide +kernel
  have housed : (({ namespaces := ["a", "b"] } : Cluster).putSource ⟨"default", "app-config"⟩
      .leaving).Housed := by
    intro kind place artifact found
    cases kind <;> simp [Cluster.artifacts, Cluster.putSource] at found
  have hfinal : ∀ final, (Simulation.leaving.reconcile
      ⟨"default", "app-config"⟩).2.cluster.sources[(⟨"default", "app-config"⟩ : ObjectKey)]? =
        some final → final.metadata.held = ["b"] := by
    intro final hfinal
    rw [hfinal] at hheld
    exact Option.some.inj hheld
  refine ⟨hheld, ?_⟩
  have hround := @a_token_goes_from_a_vacated_namespace Refusal.NotMissing .leaving
    ⟨"default", "app-config"⟩ (.atVersion .leaving 1)
    ⟨by simp [Simulation.leaving], by simp [Simulation.leaving, Refusal.NotMissing]⟩
    Refusal.not_loses_notMissing
    ((((Cluster.keyed_empty _).putSource .leaving).putArtifact _).putArtifact _)
    ((housed.putArtifact (by decide)).putArtifact (by decide)) (by decide +kernel) "a" (by decide)
    (by decide) fun final h => by rw [ClusterConfig.holds, hfinal final h]; decide
  refine hround.resolve_right ?_
  rintro ⟨final, h, hevery⟩
  rw [ClusterConfig.holds, hfinal final h] at hevery
  exact absurd hevery (by decide)

end ConfigFanout
