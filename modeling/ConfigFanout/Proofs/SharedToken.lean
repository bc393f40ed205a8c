import ConfigFanout.Proofs.Teardown

-- The token for all namespaces is also the token of a namespace of that name. What a source on
-- its way out has taken away by the time that it gives this token up depends on which of the two
-- it stood for.
namespace ConfigFanout

namespace NamespaceList

variable {raw : String} {live : List String} {target : TargetSet}

/-- The target is sorted, and has every namespace that there is if it is all of them. -/
theorem sorted_target (h : NamespaceList.target raw live = target) :
    target.namespaces.Pairwise (· ≤ ·) := by
  rw [← h, NamespaceList.target]
  split <;> exact sortTexts_sorted _

theorem mem_target_of_all (h : NamespaceList.target raw live = target)
    (hall : target.all = true) {ns : String} : ns ∈ target.namespaces ↔ ns ∈ live := by
  rw [← h, NamespaceList.target] at hall ⊢
  split at hall
  · next hevery =>
    rw [if_pos hevery]
    exact (sortTexts_perm live).mem_iff
  · cases hall

end NamespaceList

namespace ClusterConfig

variable {source : ClusterConfig} {live : List String} {target : TargetSet}
  {done rest : List Undoing}

/-- By the time that the token for all namespaces goes, all of them have been gone through, if
it is no entry of the list. -/
theorem swept_of_dropped (htarget : NamespaceList.target source.spec.namespaceList live = target)
    (heq : done ++ rest = source.undoings live) (held : source.holds everyToken = true)
    (dropped : .token everyToken ∈ done)
    (unlisted : target.all = true ∨ everyToken ∉ target.namespaces) :
    ∀ ns ∈ live, .copy ns ∈ done := by
  intro ns mem
  rw [undoings, htarget] at heq
  by_cases hall : target.all
  · rw [if_pos hall] at heq
    refine Undoing.mem_of_taken heq dropped (by simp) _ (List.mem_map_of_mem ?_)
    exact (NamespaceList.mem_target_of_all htarget hall).mpr mem
  · have hnot := unlisted.resolve_left hall
    have hnone : everyToken ∉ source.namespaceTokens := by simp [namespaceTokens]
    have hlate : (source.holds everyToken && !target.namespaces.contains everyToken) = true := by
      simp [held, hnot]
    rw [if_neg hall, if_pos hlate, Undoing.sweeping, ← List.append_assoc] at heq
    refine Undoing.mem_of_taken heq dropped ?_ _
      (List.mem_append_right _ (List.mem_map_of_mem mem))
    simp [NamespaceList.mem_stale, hnot, hnone]

/-- If it is an entry, there is no sweep. -/
theorem undoings_of_listed
    (htarget : NamespaceList.target source.spec.namespaceList live = target)
    (explicit : target.all = false) (listed : everyToken ∈ target.namespaces) :
    source.undoings live = Undoing.clearing
      (target.namespaces ++ NamespaceList.stale target.namespaces source.namespaceTokens) := by
  have hearly : (source.holds everyToken && !target.namespaces.contains everyToken) = false := by
    simp [listed]
  rw [undoings, htarget, explicit, if_neg Bool.false_ne_true, hearly, if_neg Bool.false_ne_true,
    List.append_nil]

theorem copy_mem_undoings_of_listed
    (htarget : NamespaceList.target source.spec.namespaceList live = target)
    (explicit : target.all = false) (listed : everyToken ∈ target.namespaces) {ns : String} :
    .copy ns ∈ source.undoings live ↔ ns ∈ target.namespaces ∨ ns ∈ source.namespaceTokens := by
  rw [undoings_of_listed htarget explicit listed, Undoing.copy_mem_clearing, List.mem_append,
    NamespaceList.mem_stale]
  by_cases hns : ns ∈ target.namespaces <;> simp [hns]

/-- By the time that the token goes then, with the namespace of that name, those that come before
it in the list have been gone through. -/
theorem cleared_of_dropped
    (htarget : NamespaceList.target source.spec.namespaceList live = target)
    (heq : done ++ rest = source.undoings live) (dropped : .token everyToken ∈ done)
    (explicit : target.all = false) (listed : everyToken ∈ target.namespaces) :
    ∀ ns ∈ target.namespaces, ns ≤ everyToken → .copy ns ∈ done := by
  have hsorted := NamespaceList.sorted_target htarget
  obtain ⟨before, after, hsplit, fresh⟩ := List.eq_append_cons_of_mem listed
  intro ns mem hle
  have hns : ns ∈ before ∨ ns = everyToken := by
    rw [hsplit, List.mem_append, List.mem_cons] at mem
    refine mem.imp_right fun hlater => hlater.elim id fun hafter => ?_
    -- What comes later in a sorted list is no smaller.
    rw [hsplit] at hsorted
    have hge := (List.pairwise_cons.mp (List.pairwise_append.mp hsorted).2.1).1 ns hafter
    exact String.le_antisymm hle hge
  have hsteps : done ++ rest = (Undoing.clearing before ++ [.copy everyToken]) ++
      .token everyToken :: Undoing.clearing
        (after ++ NamespaceList.stale target.namespaces source.namespaceTokens) := by
    rw [heq, undoings_of_listed htarget explicit listed]
    simp [hsplit, Undoing.clearing]
  refine Undoing.mem_of_taken hsteps dropped (by simp [fresh]) _ ?_
  simpa using hns

end ClusterConfig

/-- A round for a source on its way out that holds the token for all namespaces, and does not
afterwards, has left no copy that names the source in any of them, whichever calls failed, if
that token is no entry of an explicit list. If it is, the round has only gone through the list
up to that entry for certain, and has left all copies where the source was neither to go nor
has a token. -/
theorem what_is_left_when_the_token_for_all_goes {may : Refusal → Prop} {simulation : Simulation}
    {key : ObjectKey} {source : ClusterConfig} {target : TargetSet}
    (undisturbed : simulation.Undisturbed may) (keeps : ¬ Refusal.Loses may)
    (keyed : simulation.cluster.WellKeyed)
    (stored : simulation.cluster.sources[key]? = some source)
    (leaves : source.isDeleting = true) (held : source.holds everyToken = true)
    (htarget : NamespaceList.target source.spec.namespaceList simulation.cluster.namespaces =
      target)
    (released : ∀ final, (simulation.reconcile key).2.cluster.sources[key]? = some final →
      final.holds everyToken = false) :
    ((target.all = true ∨ everyToken ∉ target.namespaces) →
      ∀ ns ∈ simulation.cluster.namespaces,
        ¬ ((simulation.reconcile key).2.cluster.holdings source).Bears ns) ∧
    (target.all = false → everyToken ∈ target.namespaces →
      (∀ ns ∈ target.namespaces, ns ≤ everyToken →
        ¬ ((simulation.reconcile key).2.cluster.holdings source).Bears ns) ∧
      ∀ ns, ns ∉ target.namespaces → ns ∉ source.namespaceTokens →
        (((simulation.reconcile key).2.cluster.holdings source).Bears ns ↔
          (simulation.cluster.holdings source).Bears ns)) := by
  obtain rfl := keyed.sources key source stored
  obtain ⟨done, rest, final, heq, hdeparting⟩ := undisturbed.departing keeps keyed stored leaves
  have hdropped := hdeparting.dropped held released
  have hgone : ∀ ns, .copy ns ∈ done →
      ¬ ((simulation.reconcile source.metadata.key).2.cluster.holdings source).Bears ns :=
    fun ns mem hbears => ((hdeparting.bears_iff ns).mp hbears).2 mem
  constructor
  · intro unlisted ns mem
    exact hgone ns (ClusterConfig.swept_of_dropped htarget heq held hdropped unlisted ns mem)
  · intro explicit listed
    constructor
    · intro ns mem hle
      exact hgone ns (ClusterConfig.cleared_of_dropped htarget heq hdropped explicit listed ns
        mem hle)
    · intro ns hns htoken
      refine (hdeparting.bears_iff ns).trans (and_iff_left fun mem => ?_)
      have hmem : .copy ns ∈ source.undoings simulation.cluster.namespaces :=
        heq ▸ List.mem_append_left _ mem
      exact ((ClusterConfig.copy_mem_undoings_of_listed htarget explicit listed).mp hmem).elim
        hns htoken

/-- A source whose end is asked for when it has gone to all namespaces and has been given a list
with one of them and one called like all of them. -/
def ClusterConfig.trialShared : ClusterConfig where
  metadata := {
    name := some "app-config"
    ns := some "default"
    finalizers := some ["all"]
    deletionTimestamp := some Simulation.endOfSources
    resourceVersion := some "7" }
  spec := { namespaceList := "a,all", kind := .configMap, data := {("k", "v")} }
  status := some ⟨["a", "b"]⟩

def Cluster.trialShared : Cluster :=
  ((Cluster.trial ["a", "b"] "all").afterTurns ⟨"default", "app-config"⟩
    [.round [], .edit "a,all" {("k", "v")}]).markDeleting ⟨"default", "app-config"⟩
    Simulation.endOfSources

/-- The token for all namespaces goes with the namespace of that name, and the copy in a namespace
that is on the list no more is left although its source is gone. -/
theorem a_copy_is_left_when_the_shared_token_goes :
    Cluster.trialShared.sources[(⟨"default", "app-config"⟩ : ObjectKey)]? = some .trialShared ∧
      (Simulation.reconcile { cluster := .trialShared }
        ⟨"default", "app-config"⟩).2.cluster.sources[
          (⟨"default", "app-config"⟩ : ObjectKey)]? = none ∧
      ¬ ((Simulation.reconcile { cluster := .trialShared }
        ⟨"default", "app-config"⟩).2.cluster.holdings .trialShared).Bears "a" ∧
      ((Simulation.reconcile { cluster := .trialShared }
        ⟨"default", "app-config"⟩).2.cluster.holdings .trialShared).Bears "b" := by
  have stored : Cluster.trialShared.sources[(⟨"default", "app-config"⟩ : ObjectKey)]? =
      some .trialShared := by decide +kernel
  have gone : (Simulation.reconcile { cluster := .trialShared }
      ⟨"default", "app-config"⟩).2.cluster.sources[(⟨"default", "app-config"⟩ : ObjectKey)]? =
        none := by decide +kernel
  have horderly := (Cluster.fresh_trial ["a", "b"] "all").orderly rfl
  have keyed : Cluster.trialShared.WellKeyed :=
    (Cluster.orderly_afterTurns horderly (by simp)).keyed.markDeleting _ _
  obtain ⟨-, hlisted⟩ := what_is_left_when_the_token_for_all_goes
    (Simulation.undisturbed_without_rules .trialShared) Refusal.not_loses_never keyed stored rfl
    (by decide) rfl fun final hfinal => by rw [gone] at hfinal; cases hfinal
  obtain ⟨hcleared, hleft⟩ := hlisted (by decide +kernel) (by decide +kernel)
  refine ⟨stored, gone, hcleared "a" (by decide +kernel) (by decide +kernel), ?_⟩
  exact (hleft "b" (by decide +kernel) (by decide +kernel)).mpr (by decide +kernel)

end ConfigFanout
