import ConfigFanout.Proofs.Guard

-- What is left of former targets after a round that succeeds. A round knows them from the
-- status only, and stops at the first of them that has no copy, so what an attempt that
-- failed has left half done may stay behind.
namespace ConfigFanout

namespace Holdings

variable {base : ClusterConfig} {holdings : Holdings base.spec.kind} {target : TargetSet}
  {live : List String}

theorem Bears.occupied {ns : String} (h : holdings.Bears ns) : holdings.Occupied ns := by
  obtain ⟨copy, hcopy, -⟩ := h
  rw [Occupied, hcopy]
  rfl

/-- At the end of a round the namespaces of the target bear a copy, and those that bore one
before and were not reached when stale copies were taken away. -/
theorem bears_finished (h : holdings.Feasible target live) {ns : String} :
    ((holdings.retired target).finished target).Bears ns ↔
      ns ∈ target.namespaces ∨
        holdings.Bears ns ∧ ns ∉ holdings.reach (holdings.stale target) := by
  have hbring : ∀ ns ∈ target.namespaces, (holdings.retired target).MayBring live ns :=
    fun ns mem => (mayBring_retired mem).mpr (h.bring ns mem)
  by_cases mem : ns ∈ target.namespaces
  · refine ⟨fun _ => .inl mem, fun _ => ⟨_, ?_, (upToDate_carries ns (hbring ns mem).own).1⟩⟩
    rw [copies_finished hbring, if_pos mem]
  · have hsame : ((holdings.retired target).finished target).Bears ns ↔
        (holdings.pruned target).Bears ns := by
      unfold Bears
      rw [copies_finished hbring, if_neg mem, copies_retired_eq]
    rw [hsame, pruned, bears_cleared]
    exact ⟨.inr, fun hor => hor.resolve_left mem⟩

end Holdings

namespace Cluster

variable {cluster : Cluster} {key : ObjectKey} {kind : ArtifactKind}

/-- The namespaces of the status of a source are those with an artifact labelled for it. -/
def Accounted (cluster : Cluster) (key : ObjectKey) (kind : ArtifactKind) : Prop :=
  ∃ source, cluster.sources[key]? = some source ∧
    ∀ ns, cluster.Labelled kind key ns ↔ ns ∈ source.processed

theorem Fresh.accounted {source : ClusterConfig} (h : cluster.Fresh key source) :
    cluster.Accounted key source.spec.kind := by
  refine ⟨source, h.stored, fun ns => ⟨fun hlabelled => absurd hlabelled (h.unlabelled ns), ?_⟩⟩
  intro mem
  rw [ClusterConfig.processed, h.status] at mem
  cases mem

/-- After a round that succeeds, artifacts labelled for the source are in the namespaces of
the target and where they were before and stale copies were not reached. -/
theorem Orderly.labelled_after (ho : cluster.Orderly key kind) {source : ClusterConfig}
    (stored : cluster.sources[key]? = some source) {rules : List (Rule Change)}
    (fair : (Turn.round rules).Fair) {action : Action}
    (hok : (Simulation.reconcile { cluster, rules } key).1 = .ok action) {target : TargetSet}
    (htarget : NamespaceList.target source.spec.namespaceList cluster.namespaces = target) :
    (∀ ns, ((Turn.round rules).take key cluster).Labelled kind key ns ↔
      ns ∈ target.namespaces ∨ cluster.Labelled kind key ns ∧
        ns ∉ (NamespaceList.stale target.namespaces source.processed).takeWhile
          fun ns => (cluster.artifacts kind).contains ⟨ns, key.name⟩) ∧
      ∃ final, ((Turn.round rules).take key cluster).sources[key]? = some final ∧
        final.processed = target.namespaces := by
  obtain ⟨base, next, hbase, stays, rfl, rfl, hreaches, hnext⟩ := ho.round fair
  obtain rfl := Option.some.inj (hbase.symm.trans stored)
  rw [htarget] at hnext
  have hafter := hreaches.orderly stays ho
  rcases hnext with ⟨-, rfl, hfeasible⟩ | ⟨⟨error, herror⟩, -⟩
  · have hoccupied : (fun ns => (cluster.artifacts base.spec.kind).contains
        (⟨ns, base.metadata.key.name⟩ : ObjectKey)) =
        fun ns => decide ((cluster.holdings base).Occupied ns) := by
      funext ns
      rw [Bool.eq_iff_iff, decide_eq_true_iff, Holdings.occupied_holdings]
      rfl
    constructor
    · intro ns
      rw [hafter.labelled_iff, ho.labelled_iff, hreaches.holds,
        Holdings.bears_finished hfeasible, Holdings.stale, Holdings.processed_holdings stored,
        hoccupied]
      refine or_congr_right (and_congr_right fun hbears => ?_)
      rw [Holdings.mem_reach_of_occupied hbears.occupied]
    · obtain ⟨final, hfinal, -⟩ := hreaches.stays
      refine ⟨final, hfinal, ?_⟩
      rw [ClusterConfig.processed, ← status_holdings hfinal, hreaches.holds]
      rfl
  · rw [herror] at hok
    cases hok

/-- Where the status accounts for all artifacts labelled for the source, a round that succeeds
leaves none but those in the namespaces of the target. -/
theorem Accounted.labelled_after (h : cluster.Accounted key kind)
    (ho : cluster.Orderly key kind) {source : ClusterConfig}
    (stored : cluster.sources[key]? = some source) {rules : List (Rule Change)}
    (fair : (Turn.round rules).Fair) {action : Action}
    (hok : (Simulation.reconcile { cluster, rules } key).1 = .ok action) (ns : String) :
    ((Turn.round rules).take key cluster).Labelled kind key ns ↔
      ns ∈ (NamespaceList.target source.spec.namespaceList cluster.namespaces).namespaces := by
  obtain ⟨accounted, haccounted, hlabelled⟩ := h
  obtain rfl := Option.some.inj (haccounted.symm.trans stored)
  rw [(ho.labelled_after stored fair hok rfl).1 ns]
  refine ⟨fun hor => hor.elim id ?_, .inl⟩
  -- All that is stale has a copy, so all of it was reached.
  have hall : ∀ ns ∈ NamespaceList.stale
      (NamespaceList.target accounted.spec.namespaceList cluster.namespaces).namespaces
      accounted.processed, (cluster.artifacts kind).contains (⟨ns, key.name⟩ : ObjectKey) := by
    intro ns mem
    obtain ⟨name, artifact, found, howner⟩ := (hlabelled ns).mpr (NamespaceList.mem_stale.mp mem).1
    have hname : name = key.name := ho.names _ artifact found howner
    rw [hname] at found
    rw [Std.ExtTreeMap.contains_eq_isSome_getElem?, found]
    rfl
  rintro ⟨hbefore, hleft⟩
  have hreached := @List.takeWhile_append_of_pos _ _ _ [] hall
  rw [List.append_nil, List.takeWhile_nil, List.append_nil] at hreached
  rw [hreached, NamespaceList.mem_stale] at hleft
  exact Decidable.byContradiction fun hns => hleft ⟨(hlabelled ns).mp hbefore, hns⟩

theorem Accounted.take (h : cluster.Accounted key kind) (ho : cluster.Orderly key kind)
    {turn : Turn} (fair : turn.Fair) (own : turn.Own)
    (succeeds : ∀ rules, turn = .round rules →
      ∃ action, (Simulation.reconcile { cluster, rules } key).1 = .ok action) :
    (turn.take key cluster).Accounted key kind := by
  cases turn with
  | round rules =>
    obtain ⟨action, hok⟩ := succeeds rules rfl
    obtain ⟨source, stored, -⟩ := ho.stored
    obtain ⟨-, final, hfinal, hprocessed⟩ := ho.labelled_after stored fair hok rfl
    refine ⟨final, hfinal, fun ns => ?_⟩
    rw [h.labelled_after ho stored fair hok, hprocessed]
  | edit namespaceList data =>
    obtain ⟨source, stored, hlabelled⟩ := h
    simp only [Turn.take, stored]
    refine ⟨_, (sources_putSource ..).trans (if_pos rfl), fun ns => ?_⟩
    unfold Labelled
    rw [artifacts_putSource]
    exact hlabelled ns
  | addNamespace | loseArtifact => exact absurd own id

theorem accounted_afterTurns {turns : List Turn} (h : cluster.Accounted key kind)
    (ho : cluster.Orderly key kind) (fair : ∀ turn ∈ turns, turn.Fair)
    (own : ∀ turn ∈ turns, turn.Own)
    (succeeds : ∀ done rules rest, done ++ .round rules :: rest = turns →
      ∃ action, (Simulation.reconcile { cluster := cluster.afterTurns key done, rules } key).1 =
        .ok action) :
    (cluster.afterTurns key turns).Accounted key kind := by
  induction turns generalizing cluster with
  | nil => exact h
  | cons turn rest ih =>
    have hturn := fair turn List.mem_cons_self
    refine ih ?_ (ho.take hturn)
      (fun other mem => fair other (List.mem_cons_of_mem _ mem))
      (fun other mem => own other (List.mem_cons_of_mem _ mem)) ?_
    · refine h.take ho hturn (own turn List.mem_cons_self) ?_
      rintro rules rfl
      exact succeeds [] rules rest rfl
    · intro done rules later heq
      exact succeeds (turn :: done) rules later (by rw [List.cons_append, heq])

end Cluster

/-- After a round that succeeds, at the end of any run of a source that was never worked on,
artifacts labelled for the source are in the namespaces of the target and where they were
before and the status did not name them or named a namespace without a copy before them. If
all rounds before succeeded, they are in the namespaces of the target and nowhere else. -/
theorem what_a_round_that_succeeds_leaves_labelled {cluster : Cluster} {key : ObjectKey}
    {source current : ClusterConfig} {turns : List Turn} {rules : List (Rule Change)}
    {action : Action} (fresh : cluster.Fresh key source) (fair : ∀ turn ∈ turns, turn.Fair)
    (own : ∀ turn ∈ turns, turn.Own) (fairRound : (Turn.round rules).Fair)
    (stored : (cluster.afterTurns key turns).sources[key]? = some current)
    (stays : current.isDeleting = false)
    (succeeds : (Simulation.reconcile { cluster := cluster.afterTurns key turns, rules } key).1 =
      .ok action) :
    let before := cluster.afterTurns key turns
    let after := (Turn.round rules).take key before
    let target := NamespaceList.target current.spec.namespaceList before.namespaces
    (∀ ns, after.Labelled source.spec.kind key ns ↔
      ns ∈ target.namespaces ∨ before.Labelled source.spec.kind key ns ∧
        ns ∉ (NamespaceList.stale target.namespaces current.processed).takeWhile
          fun ns => (before.artifacts source.spec.kind).contains ⟨ns, key.name⟩) ∧
    ((∀ done rules rest, done ++ .round rules :: rest = turns → ∃ action,
        (Simulation.reconcile { cluster := cluster.afterTurns key done, rules } key).1 =
          .ok action) →
      ∀ ns, after.Labelled source.spec.kind key ns ↔ ns ∈ target.namespaces) := by
  intro before after target
  -- A source that stays at the end has stayed all the time.
  have hstays : source.isDeleting = false := by
    cases hleaves : source.isDeleting with
    | false => rfl
    | true =>
      have hstart : cluster.Leaves key := fun other hother => by
        rwa [← Option.some.inj (fresh.stored.symm.trans hother)]
      rw [Cluster.leaves_afterTurns hstart fair current stored] at stays
      cases stays
  have ho := Cluster.orderly_afterTurns (fresh.orderly hstays) fair
  refine ⟨(ho.labelled_after stored fairRound succeeds rfl).1, fun hall => ?_⟩
  exact (Cluster.accounted_afterTurns fresh.accounted (fresh.orderly hstays) fair own
    hall).labelled_after ho stored fairRound succeeds

/-- A source goes to two namespaces first and to one of them later. -/
theorem nothing_is_left_where_a_source_no_longer_goes :
    ¬ ((Turn.round []).take ⟨"default", "app-config"⟩
      ((Cluster.trial ["a", "b"] "a,b").afterTurns ⟨"default", "app-config"⟩
        [.round [], .edit "b" {("k", "v")}])).Labelled .configMap
          ⟨"default", "app-config"⟩ "a" := by
  obtain ⟨current, stored, hcurrent⟩ := (Option.any_eq_true _ _).mp
    (show (((Cluster.trial ["a", "b"] "a,b").afterTurns ⟨"default", "app-config"⟩
      [.round [], .edit "b" {("k", "v")}]).sources[(⟨"default", "app-config"⟩ :
        ObjectKey)]?).any (fun current => !current.isDeleting &&
          current.spec.namespaceList = "b") = true by decide +kernel)
  simp only [Bool.and_eq_true, Bool.not_eq_eq_eq_not, Bool.not_true,
    decide_eq_true_eq] at hcurrent
  have hall := (@what_a_round_that_succeeds_leaves_labelled _ _ _ _ _ [] .awaitChange
    (Cluster.fresh_trial ["a", "b"] "a,b") (by simp) (by simp [Turn.Own]) (by simp) stored
    hcurrent.1 (by decide +kernel)).2
  rw [hcurrent.2] at hall
  refine mt (hall ?_ "a").mp (by decide +kernel)
  intro done rules rest heq
  rcases done with _ | ⟨first, _ | ⟨second, later⟩⟩
  · cases heq
    exact ⟨.awaitChange, by decide +kernel⟩
  · cases heq
  · simp at heq

/-- The status does not know of a copy that a failed attempt has made. The next round leaves
it where it is, although the source does not go there any more. -/
theorem a_copy_of_a_failed_attempt_is_left :
    ∃ (cluster : Cluster) (key : ObjectKey) (source current : ClusterConfig)
      (turns : List Turn) (rules : List (Rule Change)) (action : Action) (ns : String),
      cluster.Fresh key source ∧ (∀ turn ∈ turns, turn.Fair) ∧ (∀ turn ∈ turns, turn.Own) ∧
      (Turn.round rules).Fair ∧
      (cluster.afterTurns key turns).sources[key]? = some current ∧
      current.isDeleting = false ∧
      (Simulation.reconcile { cluster := cluster.afterTurns key turns, rules } key).1 =
        .ok action ∧
      ((Turn.round rules).take key (cluster.afterTurns key turns)).Labelled source.spec.kind
        key ns ∧
      ns ∉ (NamespaceList.target current.spec.namespaceList
        (cluster.afterTurns key turns).namespaces).namespaces := by
  obtain ⟨current, stored, hcurrent⟩ := (Option.any_eq_true _ _).mp
    (show (((Cluster.trial ["a", "b"] "a,b").afterTurns ⟨"default", "app-config"⟩
      [.round [{ on := "create ConfigMap b/*", refusal := some { code := 500 } }],
        .edit "b" {("k", "v")}]).sources[(⟨"default", "app-config"⟩ : ObjectKey)]?).any
          (fun current => !current.isDeleting && current.spec.namespaceList = "b") = true by
            decide +kernel)
  simp only [Bool.and_eq_true, Bool.not_eq_eq_eq_not, Bool.not_true,
    decide_eq_true_eq] at hcurrent
  refine ⟨_, _, _, current, _, [], .awaitChange, "a", Cluster.fresh_trial ["a", "b"] "a,b",
    by simp [Refusal.NotMissing], by simp [Turn.Own], by simp, stored, hcurrent.1,
    by decide +kernel, Cluster.labelled_of_any ⟨"a", "app-config"⟩ (by decide +kernel), ?_⟩
  rw [hcurrent.2]
  decide +kernel

end ConfigFanout
