import ConfigFanout.Proofs.Convergence
import ConfigFanout.Proofs.Deeds
import ConfigFanout.Proofs.Spellings

-- What a round does that follows one that succeeded, when nothing has changed in between. All is
-- in place then, but the first round may have left a token behind that it had no use for.
namespace ConfigFanout

/-- Whether a call is to change what is stored. -/
def StoreCall.writes : StoreCall → Bool
  | .getSource _ | .listNamespaces | .getArtifact .. => false
  | _ => true

/-! ## Programs where no call is refused -/

namespace Program

variable {α β : Type} {cluster middle after : Cluster} {writes later : List StoreCall}

/-- Where no call is refused, a program makes some writes, publishes nothing, and ends with a
value and in a cluster. -/
def Makes (program : Program α) (cluster : Cluster) (writes : List StoreCall) (value : α)
    (after : Cluster) : Prop :=
  program.Traces (Cluster.faulty fun _ => False) cluster fun acts result final =>
    (acts.filterMap Act.call?).filter StoreCall.writes = writes ∧
      acts.filterMap Act.event? = [] ∧ result = .ok value ∧ final = after

theorem makes_pure (value : α) : (pure value : Program α).Makes cluster [] value cluster :=
  ⟨rfl, rfl, rfl, rfl⟩

theorem makes_ask {request : StoreCall} {value : request.Answer}
    (ha : cluster.answer request = (.ok value, after)) :
    (ask request).Makes cluster ([request].filter StoreCall.writes) value after := by
  rintro answer final (h | ⟨_, hno, -⟩)
  · rw [ha] at h
    cases h
    exact ⟨rfl, rfl, rfl, rfl⟩
  · exact hno.elim

theorem Makes.bind {first : Program α} {second : α → Program β} {value : α} {result : β}
    (h : first.Makes cluster writes value middle)
    (hnext : (second value).Makes middle later result after) :
    (first >>= second).Makes cluster (writes ++ later) result after := by
  refine (traces_bind first second).mpr (h.mono ?_)
  rintro acts _ _ ⟨hwrites, hevents, rfl, rfl⟩
  refine hnext.mono ?_
  rintro others _ _ ⟨hlater, hnone, hresult, hafter⟩
  refine ⟨?_, ?_, hresult, hafter⟩
  · rw [List.filterMap_append, List.filter_append, hwrites, hlater]
  · rw [List.filterMap_append, hevents, hnone, List.append_nil]

theorem Makes.afterLooks {first : Program α} {second : α → Program β} {value : α} {result : β}
    (h : first.Makes cluster [] value middle)
    (hnext : (second value).Makes middle later result after) :
    (first >>= second).Makes cluster later result after :=
  h.bind hnext

theorem Makes.beforeLooks {first : Program α} {second : α → Program β} {value : α} {result : β}
    (h : first.Makes cluster writes value middle)
    (hnext : (second value).Makes middle [] result after) :
    (first >>= second).Makes cluster writes result after := by
  have hboth := h.bind hnext
  rwa [List.append_nil] at hboth

theorem Makes.attempt {program : Program α} {value : α}
    (h : program.Makes cluster writes value after) :
    program.attempt.Makes cluster writes (.ok value) after := by
  refine (traces_attempt program).mpr (h.mono ?_)
  rintro acts _ _ ⟨hwrites, hevents, rfl, rfl⟩
  exact ⟨hwrites, hevents, rfl, rfl⟩

/-- What it makes is what a simulation without rules takes note of. -/
theorem Makes.run {program : Program α} {value : α}
    (h : program.Makes cluster writes value after) :
    (program.run Simulation.store { cluster }).1 = .ok value ∧
      (program.run Simulation.store { cluster }).2.events = [] ∧
      (program.run Simulation.store { cluster }).2.calls.filter StoreCall.writes = writes := by
  have htraces : program.Traces _ ({ cluster } : Simulation).cluster _ := h
  obtain ⟨hwrites, hevents, hresult, -⟩ :=
    htraces.simulate (Simulation.undisturbed_without_rules cluster)
  obtain ⟨hcalls, htold⟩ := Simulation.notes_run program { cluster }
  refine ⟨hresult, htold.trans hevents, ?_⟩
  rw [hcalls]
  exact hwrites

end Program

/-! ## Clusters in which all is in place -/

/-- The source is at hand, and all that a round brings about is there. -/
structure Cluster.Settled (base : ClusterConfig) (target : TargetSet) (source : ClusterConfig)
    (cluster : Cluster) : Prop extends cluster.AtHand base source where
  status : source.status = some ⟨target.namespaces⟩
  tokens : ∀ token ∈ target.tokens, source.holds token = true
  spare : target.all = true → source.namespaceTokens = []
  named : target.namespaces ≠ [] → base.Named
  copies : ∀ ns ∈ target.namespaces, cluster.UpToDate base ns

/-- A source that goes to some namespaces by name has no use for the token for all of them, unless
one of them has that name. -/
def ClusterConfig.Overdue (source : ClusterConfig) (target : TargetSet) : Prop :=
  source.holds everyToken = true ∧ target.all = false ∧ everyToken ∉ target.namespaces

instance (source : ClusterConfig) (target : TargetSet) : Decidable (source.Overdue target) :=
  inferInstanceAs (Decidable (_ ∧ _ ∧ _))

/-- The source without the token for all namespaces. -/
def ClusterConfig.released (source : ClusterConfig) : ClusterConfig :=
  source.withFinalizers (source.metadata.held.filter (· ≠ everyToken))

/-- What a list stands for is some names, or all of the cluster. -/
theorem NamespaceList.namespaces_ne_nil {raw : String} {live : List String} {target : TargetSet}
    (h : NamespaceList.target raw live = target) (explicit : target.all = false) :
    target.namespaces ≠ [] := by
  rw [← h, NamespaceList.target] at explicit ⊢
  split at explicit
  · cases explicit
  · next hsome =>
    rw [if_neg hsome]
    exact (isReading_parse raw).nonempty

namespace Cluster.Settled

variable {base source : ClusterConfig} {cluster : Cluster} {target : TargetSet}

/-- A copy that names the source and carries its data is left as it is. -/
theorem synchronize_makes (h : Settled base target source cluster) {ns : String}
    (mem : ns ∈ target.namespaces) :
    (source.synchronize base.spec.kind ns).Makes cluster [] .unchanged cluster := by
  obtain ⟨name, hname⟩ := h.named (List.ne_nil_of_mem mem)
  obtain ⟨artifact, found, hpayload, howner⟩ := h.copies ns mem
  have hother : artifact.otherOwner? source = none := by
    rw [Artifact.otherOwner?_of_alike _ h.alike]
    exact artifact.otherOwner?_eq_none.mpr (.inr howner)
  have hrevise : source.revise artifact = none := by
    rw [ClusterConfig.revise_of_alike h.alike, ClusterConfig.revise, howner, hpayload]
    simp
  have hlook : cluster.answer (.getArtifact base.spec.kind ⟨ns, name⟩) =
      (.ok artifact, cluster) := by
    rw [← ClusterConfig.anyName_of_requireName hname, answer_getArtifact, find, found]
  unfold ClusterConfig.synchronize
  rw [ClusterConfig.requireName_of_alike h.alike, hname, Program.ofExcept_ok, pure_bind]
  refine (Program.makes_ask hlook).attempt.afterLooks ?_
  dsimp only
  rw [hother]
  dsimp only
  rw [hrevise]
  exact Program.makes_pure _

theorem copyTo_makes (h : Settled base target source cluster) {namespaces : List String}
    (hmem : ∀ ns ∈ namespaces, ns ∈ target.namespaces) :
    (source.copyTo namespaces).Makes cluster [] (namespaces.map (·, .unchanged)) cluster := by
  unfold ClusterConfig.copyTo
  rw [ClusterConfig.spec_of_alike h.alike]
  induction namespaces with
  | nil => exact Program.makes_pure _
  | cons ns rest ih =>
    obtain ⟨hns, hrest⟩ := List.forall_mem_cons.mp hmem
    rw [List.mapM_cons, bind_assoc]
    refine (h.synchronize_makes hns).afterLooks ?_
    rw [pure_bind]
    exact (ih hrest).afterLooks (Program.makes_pure _)

theorem recordProcessed_eq (h : Settled base target source cluster) :
    source.recordProcessed target.namespaces = pure source := by
  unfold ClusterConfig.recordProcessed
  rw [if_pos h.status]

theorem missingTokens_eq (h : Settled base target source cluster) :
    source.missingTokens target.tokens = [] := by
  have hnone : target.tokens.filter (fun token => !source.holds token) = [] :=
    List.filter_eq_nil_iff.mpr fun token mem => by simp [h.tokens token mem]
  rw [ClusterConfig.missingTokens, hnone, List.eraseDups_nil]

theorem processed_eq (h : Settled base target source cluster) :
    source.processed = target.namespaces := by
  rw [ClusterConfig.processed, h.status]
  rfl

/-- Giving the token for all namespaces back leaves all that a round needs in place. -/
theorem answer_released (h : Settled base target source cluster) (stays : base.isDeleting = false)
    (overdue : source.Overdue target) :
    ∃ next after, cluster.answer (.updateSource source.released) = (.ok next, after) ∧
      Settled base target next after := by
  have hkey : source.released.metadata.key = base.metadata.key :=
    ClusterConfig.key_of_alike h.alike
  have hstored : cluster.sources[source.released.metadata.key]? = some source :=
    hkey ▸ h.stored
  have hdeleting : source.released.isDeleting = false :=
    (ClusterConfig.deleting_of_alike h.alike).trans stays
  refine ⟨source.released.atVersion cluster.nextVersion, cluster.replaceSource source.released,
    answer_updateSource hstored rfl, ?_⟩
  refine { stored := ?_, alike := h.alike, status := h.status, tokens := ?_, spare := ?_,
           named := h.named, copies := ?_ }
  · rw [sources_replaceSource, if_pos hkey, hdeleting]
    rfl
  · intro token mem
    have hheld := List.contains_iff_mem.mp (h.tokens token mem)
    refine List.contains_iff_mem.mpr (List.mem_filter.mpr ⟨hheld, decide_eq_true ?_⟩)
    rintro rfl
    rw [TargetSet.tokens, overdue.2.1, if_neg Bool.false_ne_true] at mem
    exact overdue.2.2 mem
  · intro hall
    rw [overdue.2.1] at hall
    cases hall
  · unfold UpToDate
    rw [artifacts_replaceSource]
    exact h.copies

/-- Nothing is stale, and the token for all namespaces is given back if it is of no use. -/
theorem retire_makes (h : Settled base target source cluster) (stays : base.isDeleting = false)
    (hnames : target.all = false → target.namespaces ≠ []) :
    ∃ next after, (source.retire target).Makes cluster
      (if source.Overdue target then [.updateSource source.released] else []) (next, []) after ∧
      Settled base target next after := by
  -- The status says all already, whether or not a token goes before it is looked at.
  have hrecord : ∀ {next : ClusterConfig} {after : Cluster}, Settled base target next after →
      (do let stored ← next.recordProcessed target.namespaces
          return (stored, []) : Program (ClusterConfig × List String)).Makes after []
        (next, []) after := by
    intro next after hnext
    rw [hnext.recordProcessed_eq, pure_bind]
    exact Program.makes_pure _
  unfold ClusterConfig.retire
  rw [h.processed_eq]
  by_cases hfirst : target.namespaces.isEmpty
  · have hnot : ¬ source.Overdue target := fun overdue =>
      hnames overdue.2.1 (List.isEmpty_iff.mp hfirst)
    rw [if_pos hfirst, if_neg hnot]
    exact ⟨source, cluster, Program.makes_pure _, h⟩
  · have hstale : NamespaceList.stale target.namespaces target.namespaces = [] :=
      List.eq_nil_iff_forall_not_mem.mpr fun ns mem =>
        (NamespaceList.mem_stale.mp mem).2 (NamespaceList.mem_stale.mp mem).1
    rw [if_neg hfirst, hstale, ClusterConfig.pruneFrom, pure_bind]
    dsimp only
    have hgives : (!target.all && true && !target.namespaces.contains everyToken) = true ↔
        target.all = false ∧ everyToken ∉ target.namespaces := by simp
    by_cases overdue : source.Overdue target
    · obtain ⟨next, after, ha, hnext⟩ := h.answer_released stays overdue
      rw [if_pos (hgives.mpr overdue.2), if_pos overdue, ClusterConfig.dropToken,
        if_pos overdue.1]
      exact ⟨next, after, (Program.makes_ask ha).beforeLooks (hrecord hnext), hnext⟩
    · refine ⟨source, cluster, ?_, h⟩
      rw [if_neg overdue]
      by_cases huseless : (!target.all && true && !target.namespaces.contains everyToken) = true
      · have hfree : ¬ source.holds everyToken = true := fun held =>
          overdue ⟨held, hgives.mp huseless⟩
        rw [if_pos huseless, ClusterConfig.dropToken, if_neg hfree]
        exact hrecord h
      · rw [if_neg huseless]
        exact hrecord h

/-- A round finds all in place, and reports nothing. -/
theorem apply_makes (h : Settled base target source cluster) (stays : base.isDeleting = false)
    (htarget : NamespaceList.target base.spec.namespaceList cluster.namespaces = target) :
    ∃ after, source.apply.Makes cluster
      (if source.Overdue target then [.updateSource source.released] else []) {} after := by
  have hresolve : (resolve base.spec.namespaceList).Makes cluster [] target cluster := by
    rw [← htarget]
    unfold resolve NamespaceList.target
    dsimp only
    split
    · exact (Program.makes_ask rfl).afterLooks (Program.makes_pure _)
    · exact Program.makes_pure _
  obtain ⟨next, after, hretire, hnext⟩ :=
    h.retire_makes stays (NamespaceList.namespaces_ne_nil htarget)
  have hsettle : (if target.all then next.dropTokens next.namespaceTokens
      else pure next : Program ClusterConfig) = pure next := by
    split
    · next hall =>
      rw [hnext.spare hall]
      rfl
    · rfl
  refine ⟨after, ?_⟩
  unfold ClusterConfig.apply
  rw [ClusterConfig.spec_of_alike h.alike]
  refine hresolve.afterLooks (hretire.beforeLooks ?_)
  dsimp only
  rw [hnext.missingTokens_eq, List.foldlM_nil, pure_bind]
  refine (hnext.copyTo_makes fun ns mem => mem).afterLooks ?_
  rw [← apply_ite (· >>= _), hsettle, pure_bind, hnext.recordProcessed_eq]
  have hnone : ∀ outcome : Synced, outcome ≠ .unchanged →
      (((target.namespaces.map fun ns => (ns, Synced.unchanged)).filter (·.2 = outcome)).map
        (·.1) : List String) = [] := by
    intro outcome hother
    rw [List.filter_eq_nil_iff.mpr, List.map_nil]
    intro entry mem
    obtain ⟨ns, -, rfl⟩ := List.mem_map.mp mem
    simpa using Ne.symm hother
  rw [hnone .created (by decide), hnone .updated (by decide)]
  exact Program.makes_pure _

/-- A whole round publishes nothing, and makes at most that one write. -/
theorem reconcile_makes (h : Settled base target source cluster) (stays : base.isDeleting = false)
    (htarget : NamespaceList.target base.spec.namespaceList cluster.namespaces = target) :
    ∃ after, (reconcile base.metadata.key).Makes cluster
      (if source.Overdue target then [.updateSource source.released] else []) .awaitChange
      after := by
  obtain ⟨after, happly⟩ := h.apply_makes stays htarget
  have hround : source.round.Makes cluster
      (if source.Overdue target then [.updateSource source.released] else []) (some {}) after := by
    unfold ClusterConfig.round
    rw [(ClusterConfig.deleting_of_alike h.alike).trans stays, if_neg Bool.false_ne_true]
    exact happly.beforeLooks (Program.makes_pure _)
  refine ⟨after, ?_⟩
  rw [reconcile_eq]
  refine (Program.makes_ask (answer_getSource h.stored)).attempt.afterLooks ?_
  unfold attend
  exact hround.attempt.beforeLooks (Program.makes_pure _)

end Cluster.Settled

/-! ## After a round that succeeded -/

/-- A round that succeeds leaves a source that goes to some namespaces by name with the token for
all of them: it was held and does not go with a stale namespace of that name, and it is not given
back, as the status named no namespaces, or as a stale one has no artifact. -/
def Holdings.Overlooks {base : ClusterConfig} (holdings : Holdings base.spec.kind)
    (target : TargetSet) : Prop :=
  target.all = false ∧ everyToken ∉ target.namespaces ∧ everyToken ∈ holdings.tokens ∧
    everyToken ∉ holdings.reach (holdings.stale target) ∧
    (holdings.processed = [] ∨ ∃ ns ∈ holdings.stale target, ¬ holdings.Occupied ns)

instance {base : ClusterConfig} (holdings : Holdings base.spec.kind) (target : TargetSet) :
    Decidable (holdings.Overlooks target) :=
  inferInstanceAs (Decidable (_ ∧ _ ∧ _ ∧ _ ∧ _))

namespace Cluster

variable {base final : ClusterConfig} {origin after : Cluster} {target : TargetSet}

theorem Reaches.overdue_iff
    (h : origin.Reaches base (((origin.holdings base).retired target).finished target) after)
    (stored : after.sources[base.metadata.key]? = some final) :
    final.Overdue target ↔ (origin.holdings base).Overlooks target := by
  have hholds : final.holds everyToken = true ↔
      everyToken ∈ (((origin.holdings base).retired target).finished target).tokens := by
    rw [← h.holds, tokens_holdings stored]
    exact List.contains_iff_mem
  unfold ClusterConfig.Overdue Holdings.Overlooks
  rw [hholds, Holdings.mem_tokens_finished, Holdings.mem_tokens_retired, Holdings.Releases]
  by_cases hall : target.all
  · simp [hall]
  · by_cases hlisted : everyToken ∈ target.namespaces
    · simp [hlisted]
    · simp [hall, hlisted, TargetSet.tokens, Decidable.imp_iff_not_or]

/-- After a round that succeeded all is in place. -/
theorem Reaches.settled
    (h : origin.Reaches base (((origin.holdings base).retired target).finished target) after)
    (feasible : (origin.holdings base).Feasible target origin.namespaces)
    (stored : after.sources[base.metadata.key]? = some final) :
    Settled base target final after := by
  have hbring : ∀ ns ∈ target.namespaces,
      ((origin.holdings base).retired target).MayBring origin.namespaces ns :=
    fun ns mem => (Holdings.mayBring_retired mem).mpr (feasible.bring ns mem)
  have hsucceeds : Succeeds (fun _ => False) base origin target after :=
    ⟨_, fun _ => ⟨rfl, feasible⟩, hbring, h⟩
  obtain ⟨hcopies, last, hlast, hstatus, htokens, hspare⟩ := hsucceeds.converged
  obtain ⟨same, hsame, alike⟩ := h.stays
  cases stored.symm.trans hlast
  cases stored.symm.trans hsame
  exact {
    stored, alike
    status := hstatus
    tokens := htokens
    spare := hspare
    named := fun hne => by
      obtain ⟨ns, mem⟩ := List.exists_mem_of_ne_nil _ hne
      exact (feasible.bring ns mem).named
    copies := hcopies }

end Cluster

/-- A round that follows one which succeeded succeeds and publishes nothing. It writes nothing
either, unless the first one has left the token for all namespaces to it: then it gives that
token back, and this is its only write. -/
theorem a_repeated_round_at_most_gives_one_token_back {may : Refusal → Prop}
    {simulation : Simulation} {key : ObjectKey} {source : ClusterConfig} {action : Action}
    {target : TargetSet} (undisturbed : simulation.Undisturbed may)
    (keeps : ¬ Refusal.Loses may) (keyed : simulation.cluster.WellKeyed)
    (stored : simulation.cluster.sources[key]? = some source)
    (stays : source.isDeleting = false)
    (htarget : NamespaceList.target source.spec.namespaceList simulation.cluster.namespaces =
      target)
    (succeeds : (simulation.reconcile key).1 = .ok action) :
    ∃ final, (simulation.reconcile key).2.cluster.sources[key]? = some final ∧
      let again := Simulation.reconcile { cluster := (simulation.reconcile key).2.cluster } key
      again.1 = .ok .awaitChange ∧ again.2.events = [] ∧
        again.2.calls.filter StoreCall.writes =
          if (simulation.cluster.holdings source).Overlooks target then
            [.updateSource final.released]
          else [] := by
  obtain rfl := keyed.sources key source stored
  obtain ⟨hfeasible, hreaches⟩ :=
    undisturbed.reconcile_ok keeps keyed stored rfl stays htarget succeeds
  obtain ⟨final, hfinal, -⟩ := hreaches.stays
  have hlive : NamespaceList.target source.spec.namespaceList
      (simulation.reconcile source.metadata.key).2.cluster.namespaces = target := by
    rw [hreaches.spares.namespaces, htarget]
  obtain ⟨after, hmakes⟩ := (hreaches.settled hfeasible hfinal).reconcile_makes stays hlive
  refine ⟨final, hfinal, ?_⟩
  simp only [← hreaches.overdue_iff hfinal]
  exact hmakes.run

/-- A source whose first round was to go to all namespaces and failed there, and which has been
given a list with one of them. -/
def ClusterConfig.trialRelisted : ClusterConfig where
  metadata := {
    name := some "app-config"
    ns := some "default"
    finalizers := some ["all"]
    resourceVersion := some "3" }
  spec := { namespaceList := "a", kind := .configMap, data := {("k", "v")} }

def Cluster.trialRelisted : Cluster :=
  (Cluster.trial ["a"] "all").afterTurns ⟨"default", "app-config"⟩
    [.round [{ on := "create ConfigMap *", refusal := some { code := 500 } }],
      .edit "a" {("k", "v")}]

/-- Its next round succeeds, and the one after that still has a token to give back. -/
theorem the_token_of_a_failed_round_is_given_back_late :
    (Simulation.reconcile { cluster := .trialRelisted } ⟨"default", "app-config"⟩).1 =
        .ok .awaitChange ∧
      ∃ final, (Simulation.reconcile { cluster := .trialRelisted }
          ⟨"default", "app-config"⟩).2.cluster.sources[
            (⟨"default", "app-config"⟩ : ObjectKey)]? = some final ∧
        (Simulation.reconcile { cluster := (Simulation.reconcile { cluster := .trialRelisted }
            ⟨"default", "app-config"⟩).2.cluster } ⟨"default", "app-config"⟩).2.calls.filter
          StoreCall.writes = [.updateSource final.released] := by
  have stored : Cluster.trialRelisted.sources[(⟨"default", "app-config"⟩ : ObjectKey)]? =
      some .trialRelisted := by decide +kernel
  have succeeds : (Simulation.reconcile { cluster := .trialRelisted }
      ⟨"default", "app-config"⟩).1 = .ok .awaitChange := by decide +kernel
  have horderly := (Cluster.fresh_trial ["a"] "all").orderly rfl
  have keyed : Cluster.trialRelisted.WellKeyed :=
    (Cluster.orderly_afterTurns horderly (by simp [Refusal.NotMissing])).keyed
  obtain ⟨final, hfinal, -, -, hwrites⟩ := a_repeated_round_at_most_gives_one_token_back
    (Simulation.undisturbed_without_rules .trialRelisted) Refusal.not_loses_never keyed stored rfl
    rfl succeeds
  refine ⟨succeeds, final, hfinal, hwrites.trans (if_pos ?_)⟩
  decide +kernel

end ConfigFanout
