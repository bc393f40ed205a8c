import ConfigFanout.Proofs.PhaseOrder
import ConfigFanout.Proofs.Scope
import ConfigFanout.Proofs.Teardown

-- What becomes of the finalizers that others have put on a source. A round takes one away if
-- the source names it as a namespace: in an explicit list if it is on its way out, or as a
-- target that it had and has no more if it stays. All others stay, in their order.
namespace ConfigFanout

namespace Cluster

variable {cluster after : Cluster} {key : ObjectKey} {source : ClusterConfig}

/-- Whether the source under a key names a finalizer as a namespace that a round clears. -/
def Exposes (cluster : Cluster) (key : ObjectKey) (token : String) : Prop :=
  ∃ source, cluster.sources[key]? = some source ∧
    source.Exposes (NamespaceList.target source.spec.namespaceList cluster.namespaces) token

theorem guards_of_stored (stored : cluster.sources[key]? = some source) :
    cluster.guards key = source.metadata.held := by
  rw [guards, stored]

theorem guards_congr (h : after.sources = cluster.sources) :
    after.guards key = cluster.guards key := by
  rw [guards, guards, h]

/-- A source that is gone once it is written has no finalizers left. -/
theorem guards_replaceSource (cluster : Cluster) (source : ClusterConfig) :
    (cluster.replaceSource source).guards source.metadata.key = source.metadata.held := by
  rw [guards, sources_replaceSource, if_pos rfl]
  by_cases hgone : (source.isDeleting && source.metadata.held.isEmpty) = true
  · rw [if_pos hgone]
    exact (List.isEmpty_iff.mp ((Bool.and_eq_true _ _).mp hgone).2).symm
  · rw [if_neg hgone]
    rfl

end Cluster

namespace Oriented

variable {base hand written : ClusterConfig} {origin cluster after : Cluster}
  {known : Knowledge × Bearings} {may : Refusal → Prop} {kept finalizers : List String}

/-- A round writes the finalizers of the source at hand, but for its change. -/
theorem guards_updateSource (h : Oriented base origin known cluster)
    (hhand : known.2.hand = some hand)
    (ha : cluster.answer (.updateSource (hand.withFinalizers finalizers)) =
      (.ok written, after)) :
    cluster.guards base.metadata.key = hand.metadata.held ∧
      after.guards base.metadata.key = finalizers := by
  obtain ⟨hstored, -, rfl⟩ := h.updateSource_eq hhand ha
  have hkey : hand.metadata.key = base.metadata.key :=
    ClusterConfig.key_of_alike (h.stored_eq hhand).1
  refine ⟨Cluster.guards_of_stored hstored, ?_⟩
  rw [← hkey]
  exact Cluster.guards_replaceSource cluster _

/-- A call that succeeds leaves the finalizers of others that the source does not name. -/
theorem keeps (h : Oriented base origin known cluster)
    (foreign : ∀ token ∈ kept, isForeignFinalizer token = true)
    (unnamed : ∀ token ∈ kept, ¬ base.Exposes
      (NamespaceList.target base.spec.namespaceList origin.namespaces) token)
    {request : StoreCall} {value : request.Answer} (inScope : InScope known.2 request)
    (ha : cluster.answer request = (.ok value, after))
    (hkept : kept.Sublist (cluster.guards base.metadata.key)) :
    kept.Sublist (after.guards base.metadata.key) := by
  cases inScope with
  | @add first hand target token hfirst hhand =>
    obtain ⟨hbefore, hafter⟩ := h.guards_updateSource hhand ha
    rw [hafter]
    exact (hbefore ▸ hkept).trans (List.sublist_append_left _ _)
  | @drop first hand target token hfirst hhand aims hexposed =>
    obtain ⟨hbefore, hafter⟩ := h.guards_updateSource hhand ha
    obtain ⟨rfl, rfl⟩ := h.target_eq hfirst aims
    -- What is dropped is none of those that are to be kept.
    have hall : kept.filter (· ≠ token) = kept := by
      refine List.filter_eq_self.mpr fun other mem => decide_eq_true ?_
      rintro rfl
      exact unnamed other mem (hexposed (foreign other mem))
    rw [hafter, ← hall]
    exact (hbefore ▸ hkept).filter _
  | @record first hand target hfirst hhand =>
    obtain ⟨hstored, -, rfl⟩ := h.updateStatus_eq hhand ha
    rw [Cluster.guards_of_stored hstored] at hkept
    rw [Cluster.guards, Cluster.sources_putSource, if_pos rfl]
    exact hkept
  | fetch | list | look =>
    cases Cluster.grants_of_answer ha
    exact hkept
  | create | replace =>
    cases Cluster.grants_of_answer ha
    rwa [Cluster.guards_congr (Cluster.sources_putArtifact ..)]
  | take =>
    cases Cluster.grants_of_answer ha
    rwa [Cluster.guards_congr (Cluster.sources_removeArtifact ..)]

end Oriented

/-- A round leaves the finalizers of others that the source does not name, whichever calls
fail. -/
theorem Simulation.Undisturbed.keeps {simulation : Simulation} {may : Refusal → Prop}
    (h : simulation.Undisturbed may) {key : ObjectKey} {kept : List String}
    (keyed : simulation.cluster.WellKeyed)
    (foreign : ∀ token ∈ kept, isForeignFinalizer token = true)
    (unnamed : ∀ token ∈ kept, ¬ simulation.cluster.Exposes key token)
    (hkept : kept.Sublist (simulation.cluster.guards key)) :
    (simulation.reconcile key).2.cluster.WellKeyed ∧
      kept.Sublist ((simulation.reconcile key).2.cluster.guards key) := by
  cases hstored : simulation.cluster.sources[key]? with
  | none =>
    have hsame := h.reconcile_leaves (Cluster.reconcile_of_missing hstored)
    rw [hsame]
    exact ⟨keyed, hkept⟩
  | some base =>
    obtain rfl := keyed.sources key base hstored
    have hunnamed : ∀ token ∈ kept, ¬ base.Exposes (NamespaceList.target
        base.spec.namespaceList simulation.cluster.namespaces) token :=
      fun token mem hexposes => unnamed token mem ⟨base, hstored, hexposes⟩
    obtain ⟨-, known, hends, hafter⟩ := h.watched keyed hstored
      (fun _ cluster => kept.Sublist (cluster.guards base.metadata.key)) (fun _ => True) hkept
      (fun horiented hbefore _ inScope ha =>
        ⟨trivial, horiented.keeps foreign hunnamed inScope ha hbefore⟩)
      (fun _ _ hbefore => ⟨trivial, hbefore⟩) fun _ => trivial
    exact ⟨hends.current.keyed, hafter⟩

/-- What happens to the source under a key: rounds for it, in which calls may fail in any way,
and between them what others do, who leave some finalizers on it. The list has the clusters that
the rounds have found. -/
inductive Attended (key : ObjectKey) (kept : List String) (origin : Cluster) :
    List Cluster → Cluster → Prop
  | start : Attended key kept origin [] origin
  | round {founds : List Cluster} {simulation : Simulation} :
    Attended key kept origin founds simulation.cluster →
    simulation.Undisturbed (fun _ => True) →
    Attended key kept origin (founds ++ [simulation.cluster])
      (simulation.reconcile key).2.cluster
  | others {founds : List Cluster} {before after : Cluster} :
    Attended key kept origin founds before → after.WellKeyed →
    (kept.Sublist (before.guards key) → kept.Sublist (after.guards key)) →
    Attended key kept origin founds after

theorem Attended.keeps {key : ObjectKey} {kept : List String} {origin after : Cluster}
    {founds : List Cluster} (h : Attended key kept origin founds after)
    (keyed : origin.WellKeyed) (held : kept.Sublist (origin.guards key))
    (foreign : ∀ token ∈ kept, isForeignFinalizer token = true)
    (unnamed : ∀ found ∈ founds, ∀ token ∈ kept, ¬ found.Exposes key token) :
    after.WellKeyed ∧ kept.Sublist (after.guards key) := by
  induction h with
  | start => exact ⟨keyed, held⟩
  | @round founds simulation _ undisturbed ih =>
    rw [List.forall_mem_append] at unnamed
    obtain ⟨hkeyed, hkept⟩ := ih unnamed.1
    exact undisturbed.keeps hkeyed foreign (unnamed.2 _ (List.mem_singleton_self _)) hkept
  | others _ hkeyed hleave ih => exact ⟨hkeyed, hleave (ih unnamed).2⟩

/-! ## What goes in a round that succeeds -/

/-- Whether a source names a finalizer as a namespace that a round gets to that succeeds. -/
def Cluster.Strips (cluster : Cluster) (source : ClusterConfig) (token : String) : Prop :=
  let target := NamespaceList.target source.spec.namespaceList cluster.namespaces
  if source.isDeleting then target.all = false ∧ token ∈ target.namespaces
  else token ∈ (cluster.holdings source).reach
    (NamespaceList.stale target.namespaces source.processed)

namespace Simulation.Undisturbed

variable {simulation : Simulation} {base : ClusterConfig} {token : String} {action : Action}

theorem strips_of_leaves (h : simulation.Undisturbed Refusal.NotMissing)
    (keyed : simulation.cluster.WellKeyed)
    (stored : simulation.cluster.sources[base.metadata.key]? = some base)
    (leaves : base.isDeleting = true)
    (hok : (simulation.reconcile base.metadata.key).1 = .ok action)
    (held : token ∈ base.metadata.held) (foreign : isForeignFinalizer token = true) :
    token ∉ (simulation.reconcile base.metadata.key).2.cluster.guards base.metadata.key ↔
      simulation.cluster.Strips base token := by
  obtain ⟨-, final, hdeparting⟩ := (h.teardown Refusal.not_loses_notMissing keyed stored
    leaves).resolve_right (by simp [hok])
  have hguards : (simulation.reconcile base.metadata.key).2.cluster.guards base.metadata.key =
      final.metadata.held := by
    rw [Cluster.guards, hdeparting.stored]
    by_cases hgone : final.metadata.held = [] ∧ base.metadata.held ≠ []
    · rw [if_pos hgone]
      exact hgone.1.symm
    · rw [if_neg hgone]
  rw [hguards, hdeparting.held, Undoing.mem_left, Cluster.Strips, if_pos leaves]
  simpa [held, foreign] using @ClusterConfig.token_mem_undoings base _ _ rfl token held

theorem strips_of_stays (h : simulation.Undisturbed Refusal.NotMissing)
    (keyed : simulation.cluster.WellKeyed)
    (stored : simulation.cluster.sources[base.metadata.key]? = some base)
    (stays : base.isDeleting = false)
    (hok : (simulation.reconcile base.metadata.key).1 = .ok action)
    (held : token ∈ base.metadata.held) (foreign : isForeignFinalizer token = true) :
    token ∉ (simulation.reconcile base.metadata.key).2.cluster.guards base.metadata.key ↔
      simulation.cluster.Strips base token := by
  obtain ⟨target, htarget⟩ : ∃ target, NamespaceList.target base.spec.namespaceList
      simulation.cluster.namespaces = target := ⟨_, rfl⟩
  obtain ⟨-, hreaches⟩ := h.reconcile_ok Refusal.not_loses_notMissing keyed stored rfl stays
    htarget hok
  obtain ⟨source, hsource, -⟩ := hreaches.stays
  have hnot : token ≠ everyToken := by
    rintro rfl
    exact everyToken_not_foreign foreign
  have hofNamespace : Holdings.ofNamespace token = false := by
    simp [Holdings.ofNamespace, foreign]
  -- What is taken away as stale is no target, so it does not come back.
  have hback : ∀ {list : List String}, token ∈ (simulation.cluster.holdings base).reach
      (NamespaceList.stale target.namespaces list) → token ∉ target.tokens := by
    intro list mem htokens
    unfold TargetSet.tokens at htokens
    split at htokens
    · exact hnot (List.mem_singleton.mp htokens)
    · exact (NamespaceList.mem_stale.mp (Holdings.mem_of_mem_reach mem)).2 htokens
  rw [Cluster.guards_of_stored hsource, ← Cluster.tokens_holdings hsource, hreaches.holds,
    Holdings.mem_tokens_finished, Holdings.mem_tokens_retired, Cluster.tokens_holdings stored,
    Holdings.stale, Holdings.processed_holdings stored, Cluster.Strips, htarget, stays,
    if_neg Bool.false_ne_true]
  simp only [held, hnot, hofNamespace, true_and, false_and, not_false_eq_true, and_true,
    Bool.false_eq_true, and_false, not_or, Classical.not_not]
  exact ⟨And.left, fun mem => ⟨mem, hback mem⟩⟩

end Simulation.Undisturbed

/-- Rounds for a source, in which calls fail in any way, leave the finalizers of others on it
that it was found with at first, in their order, as long as no round finds that the source names
one of them as a namespace to be cleared. Of those that are held, a round that succeeds takes
away the ones that are named so and that it gets to. -/
theorem foreign_finalizers_stay_unless_the_source_names_them {key : ObjectKey}
    {kept : List String} {origin after : Cluster} {founds : List Cluster}
    (keyed : origin.WellKeyed) (attended : Attended key kept origin founds after)
    (held : kept.Sublist (origin.guards key))
    (foreign : ∀ token ∈ kept, isForeignFinalizer token = true)
    (unnamed : ∀ found ∈ founds, ∀ token ∈ kept, ¬ found.Exposes key token) :
    kept.Sublist (after.guards key) ∧
      ∀ (simulation : Simulation) (source : ClusterConfig) (action : Action),
        simulation.cluster = after → simulation.Undisturbed Refusal.NotMissing →
        after.sources[key]? = some source → (simulation.reconcile key).1 = .ok action →
        ∀ token ∈ source.metadata.held, isForeignFinalizer token = true →
          (token ∉ (simulation.reconcile key).2.cluster.guards key ↔
            after.Strips source token) := by
  obtain ⟨hkeyed, hkept⟩ := attended.keeps keyed held foreign unnamed
  refine ⟨hkept, ?_⟩
  rintro simulation source action rfl undisturbed stored hok token mem hforeign
  obtain rfl := hkeyed.sources key source stored
  cases hleaves : source.isDeleting with
  | true => exact undisturbed.strips_of_leaves hkeyed stored hleaves hok mem hforeign
  | false => exact undisturbed.strips_of_stays hkeyed stored hleaves hok mem hforeign

/-- A source on its way out that waits for others, of whom one goes by the name of a namespace
of its list. -/
def ClusterConfig.awaited : ClusterConfig :=
  { ClusterConfig.trial "orphan" with
    metadata :=
      { name := some "app-config", ns := some "default",
        finalizers := some ["orphan", "example.com/backup"],
        deletionTimestamp := some Simulation.endOfSources } }

def Cluster.awaited : Cluster :=
  ({ namespaces := ["orphan"] } : Cluster).putSource ⟨"default", "app-config"⟩ .awaited

/-- A round takes the finalizer of that name away, which it has not put up, and leaves the other
one. -/
theorem a_finalizer_named_like_a_namespace_is_taken_away :
    ["example.com/backup"].Sublist ((Simulation.reconcile { cluster := .awaited }
        ⟨"default", "app-config"⟩).2.cluster.guards ⟨"default", "app-config"⟩) ∧
      "orphan" ∉ (Simulation.reconcile { cluster := .awaited }
        ⟨"default", "app-config"⟩).2.cluster.guards ⟨"default", "app-config"⟩ := by
  have keyed : Cluster.awaited.WellKeyed := (Cluster.keyed_empty _).putSource .awaited
  have stored : Cluster.awaited.sources[(⟨"default", "app-config"⟩ : ObjectKey)]? =
      some (ClusterConfig.awaited.atVersion 1) := by decide +kernel
  have hguards : Cluster.awaited.guards ⟨"default", "app-config"⟩ =
      ["orphan", "example.com/backup"] := Cluster.guards_of_stored stored
  constructor
  · refine (foreign_finalizers_stay_unless_the_source_names_them keyed
      (@Attended.round _ _ _ _ { cluster := .awaited } .start ⟨by simp, by simp⟩) ?_ ?_ ?_).1
    · rw [hguards]
      exact (List.Sublist.refl _).cons _
    · decide
    · intro found mem token mem'
      rw [List.nil_append, List.mem_singleton] at mem
      rw [List.mem_singleton] at mem'
      subst mem mem'
      rintro ⟨source, hsource, hexposes⟩
      obtain rfl := Option.some.inj (stored.symm.trans hsource)
      exact absurd hexposes (by decide +kernel)
  · refine ((@foreign_finalizers_stay_unless_the_source_names_them _ [] _ _ _ keyed .start
      (List.nil_sublist _) (by simp) (by simp)).2 { cluster := .awaited } _ .awaitChange rfl
      ⟨by simp, by simp⟩ stored (by decide +kernel) "orphan" (by decide) (by decide)).mpr ?_
    unfold Cluster.Strips
    exact ⟨by decide +kernel, by decide +kernel⟩

end ConfigFanout
