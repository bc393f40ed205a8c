import ConfigFanout.Proofs.Parts
import ConfigFanout.Proofs.Progress

-- A whole round of a source that stays, put together from its parts: what it makes of the
-- holdings when it succeeds, and what they may be when it fails. A store that reports things
-- as missing that are there may stop the work on stale copies anywhere.
namespace ConfigFanout

namespace Cluster

variable {base source : ClusterConfig} {origin cluster : Cluster}
  {holdings : Holdings base.spec.kind} {may : Refusal → Prop}

/-- The namespaces of a list are those that it stands for in the cluster. -/
theorem resolve_ensures (cluster : Cluster) (raw : String) :
    (resolve raw).Ensures (Cluster.faulty may) cluster
      (fun target after => target = NamespaceList.target raw cluster.namespaces ∧ after = cluster)
      fun _ after => after = cluster ∧ Refusal.Possible may := by
  unfold resolve NamespaceList.target
  dsimp only
  by_cases hevery : NamespaceList.isEvery (NamespaceList.parse raw)
  · rw [if_pos hevery, if_pos hevery]
    refine cluster.listNamespaces_ensures.bind ?_ fun _ _ hfail => hfail
    rintro live after ⟨rfl, rfl⟩
    exact ⟨rfl, rfl⟩
  · rw [if_neg hevery, if_neg hevery]
    exact ⟨rfl, rfl⟩

namespace Underway

theorem pruneFrom_ensures (h : Underway base origin holdings source cluster)
    (stays : base.isDeleting = false) {list : List String} (nodup : list.Nodup) :
    (source.pruneFrom list).Ensures (Cluster.faulty may) cluster
      (fun pruned after => (list ≠ [] → base.Named) ∧ ∃ next,
        (¬ Refusal.Loses may → holdings.Prunes list next pruned.complete) ∧
        Underway base origin next pruned.source after)
      fun _ after => (∃ next, (¬ Refusal.Loses may → holdings.Clearing list next) ∧
        origin.Reaches base next after) ∧
        (Refusal.Possible may ∨ list ≠ [] ∧ ¬ base.Named) := by
  -- No namespace comes twice, so what was taken away says nothing about the rest of the list.
  induction list generalizing holdings source cluster with
  | nil => exact ⟨fun hne => absurd rfl hne, holdings, fun _ => .nil, h⟩
  | cons ns rest ih =>
    obtain ⟨fresh, nodup⟩ := List.nodup_cons.mp nodup
    rw [ClusterConfig.pruneFrom, ClusterConfig.spec_of_alike h.alike]
    refine (h.withdraw_ensures ns).bind ?_ ?_
    · rintro removal after ⟨named, middle, hwithdrawn, hmiddle⟩
      refine (hmiddle.dropToken_ensures stays ns).bind ?_ ?_
      · intro stored after hstored
        -- The rest of the list is gone through if there was a copy here.
        have hrest : removal ≠ .alreadyAbsent →
            (stored.pruneFrom rest).Ensures (Cluster.faulty may) after
              (fun pruned after => (ns :: rest ≠ [] → base.Named) ∧ ∃ next,
                (¬ Refusal.Loses may → holdings.Prunes (ns :: rest) next pruned.complete) ∧
                Underway base origin next pruned.source after)
              fun _ after => (∃ next,
                (¬ Refusal.Loses may → holdings.Clearing (ns :: rest) next) ∧
                origin.Reaches base next after) ∧
                (Refusal.Possible may ∨ ns :: rest ≠ [] ∧ ¬ base.Named) := by
          intro hremoval
          refine (ih hstored nodup).mono ?_ ?_
          · rintro pruned after ⟨-, next, hprunes, hafter⟩
            refine ⟨fun _ => named, next, fun hkeeps => ?_, hafter⟩
            obtain ⟨rfl, habsent⟩ := hwithdrawn.eq_withdraw hkeeps
            exact (hprunes hkeeps).cons (Decidable.not_not.mp (mt habsent.mpr hremoval)) fresh
          · rintro error after ⟨⟨next, hclearing, hafter⟩, hcause⟩
            refine ⟨⟨next, fun hkeeps => ?_, hafter⟩, hcause.imp id fun hno => ⟨by simp, hno.2⟩⟩
            obtain ⟨rfl, habsent⟩ := hwithdrawn.eq_withdraw hkeeps
            exact (hclearing hkeeps).cons (Decidable.not_not.mp (mt habsent.mpr hremoval)) fresh
        cases removal with
        | alreadyAbsent =>
          refine ⟨fun _ => named, _, fun hkeeps => ?_, hstored⟩
          obtain ⟨rfl, habsent⟩ := hwithdrawn.eq_withdraw hkeeps
          exact .stop rest (habsent.mp rfl)
        | notOwned => exact hrest (by simp)
        | deleted => exact (hrest (by simp)).bind (fun _ _ hdone => hdone) fun _ _ hfail => hfail
      · rintro error after ⟨hafter, hpossible⟩
        refine ⟨⟨middle, fun hkeeps => ?_, hafter⟩, .inl hpossible⟩
        obtain ⟨rfl, -⟩ := hwithdrawn.eq_withdraw hkeeps
        exact .first ns rest
    · rintro error after ⟨hafter, hcause⟩
      exact ⟨⟨holdings, fun _ => .start _, hafter⟩, hcause.imp id fun hno => ⟨by simp, hno⟩⟩

theorem processed_eq (h : Underway base origin holdings source cluster) :
    source.processed = holdings.processed := by
  rw [← h.reaches.holds, Holdings.processed_holdings h.stored]

/-- What is stale is taken away, and the status says so. -/
theorem retire_ensures (h : Underway base origin holdings source cluster)
    (stays : base.isDeleting = false) (target : TargetSet) :
    (source.retire target).Ensures (Cluster.faulty may) cluster
      (fun result after => (holdings.stale target ≠ [] → base.Named) ∧ ∃ next,
        (¬ Refusal.Loses may → next = holdings.retired target) ∧
        Underway base origin next result.1 after)
      fun _ after => (∃ next,
        (¬ Refusal.Loses may → holdings.Interrupted target origin.namespaces next) ∧
        origin.Reaches base next after) ∧
        (Refusal.Possible may ∨ holdings.stale target ≠ [] ∧ ¬ base.Named) := by
  unfold ClusterConfig.retire
  rw [h.processed_eq]
  by_cases hfirst : holdings.processed.isEmpty
  · rw [if_pos hfirst]
    have hnone : holdings.stale target = [] :=
      Holdings.stale_of_first (List.isEmpty_iff.mp hfirst)
    refine ⟨fun hne => absurd hnone hne, holdings, fun _ => ?_, h⟩
    rw [Holdings.retired, if_pos hfirst]
  · rw [if_neg hfirst]
    have hbefore : holdings.processed ≠ [] := fun hnil => hfirst (List.isEmpty_iff.mpr hnil)
    refine (h.pruneFrom_ensures stays (NamespaceList.nodup_stale _ _)).bind ?_ ?_
    · rintro pruned after ⟨named, middle, hprunes, hmiddle⟩
      have hrelease : ¬ Refusal.Loses may →
          ((!target.all && pruned.complete && !target.namespaces.contains everyToken) = true ↔
            holdings.Releases target) :=
        fun hkeeps => (hprunes hkeeps).releases_iff hbefore
      -- The status is written after the token for all namespaces is given back or kept.
      have hrecord : ∀ {stored : ClusterConfig} {next : Holdings base.spec.kind}
          {after : Cluster}, Underway base origin next stored after →
          (¬ Refusal.Loses may → next = holdings.released target) →
          (do let stored ← stored.recordProcessed target.namespaces
              return (stored, pruned.namespaces) : Program (ClusterConfig × List String)).Ensures
            (Cluster.faulty may) after
            (fun result after => (holdings.stale target ≠ [] → base.Named) ∧ ∃ next,
              (¬ Refusal.Loses may → next = holdings.retired target) ∧
              Underway base origin next result.1 after)
            fun _ after => (∃ next,
              (¬ Refusal.Loses may → holdings.Interrupted target origin.namespaces next) ∧
              origin.Reaches base next after) ∧
              (Refusal.Possible may ∨ holdings.stale target ≠ [] ∧ ¬ base.Named) := by
        intro stored next after hnext hreleased
        refine (hnext.recordProcessed_ensures target.namespaces).bind ?_ ?_
        · intro recorded after hrecorded
          refine ⟨named, _, fun hkeeps => ?_, hrecorded⟩
          rw [hreleased hkeeps, Holdings.retired, if_neg hfirst]
        · rintro error after ⟨hafter, hpossible⟩
          refine ⟨⟨next, fun hkeeps => ?_, hafter⟩, .inl hpossible⟩
          rw [hreleased hkeeps]
          exact .retiring hbefore
      dsimp only
      by_cases hgives : (!target.all && pruned.complete &&
          !target.namespaces.contains everyToken) = true
      · rw [if_pos hgives]
        refine (hmiddle.dropToken_ensures stays everyToken).bind ?_ ?_
        · intro stored after hstored
          refine hrecord hstored fun hkeeps => ?_
          rw [Holdings.released, if_pos ((hrelease hkeeps).mp hgives), (hprunes hkeeps).next_eq]
          rfl
        · rintro error after ⟨hafter, hpossible⟩
          refine ⟨⟨middle, fun hkeeps => ?_, hafter⟩, .inl hpossible⟩
          rw [(hprunes hkeeps).next_eq]
          exact .releasing ((hrelease hkeeps).mp hgives)
      · rw [if_neg hgives]
        refine hrecord hmiddle fun hkeeps => ?_
        rw [Holdings.released, if_neg (mt (hrelease hkeeps).mpr hgives), (hprunes hkeeps).next_eq]
        rfl
    · rintro error after ⟨⟨next, hclearing, hafter⟩, hcause⟩
      exact ⟨⟨next, fun hkeeps => .clearing (hclearing hkeeps), hafter⟩, hcause⟩

theorem foldlM_ensures {step : ClusterConfig → String → Program ClusterConfig}
    {makes : Holdings base.spec.kind → String → Holdings base.spec.kind}
    (hstep : ∀ {holdings source cluster}, Underway base origin holdings source cluster →
      ∀ token, (step source token).Ensures (Cluster.faulty may) cluster
        (fun stored after => Underway base origin (makes holdings token) stored after)
        fun _ after => origin.Reaches base holdings after ∧ Refusal.Possible may)
    (h : Underway base origin holdings source cluster) (list : List String) :
    (list.foldlM step source).Ensures (Cluster.faulty may) cluster
      (fun stored after => Underway base origin (list.foldl makes holdings) stored after)
      fun _ after => (∃ done rest, done ++ rest = list ∧
        origin.Reaches base (done.foldl makes holdings) after) ∧ Refusal.Possible may := by
  induction list generalizing holdings source cluster with
  | nil => exact h
  | cons token rest ih =>
    rw [List.foldlM_cons]
    refine (hstep h token).bind ?_ ?_
    · intro stored after hstored
      refine (ih hstored).mono (fun _ _ hdone => hdone) ?_
      rintro error after ⟨⟨done, others, heq, hafter⟩, hpossible⟩
      exact ⟨⟨token :: done, others, by rw [List.cons_append, heq], hafter⟩, hpossible⟩
    · rintro error after ⟨hafter, hpossible⟩
      exact ⟨⟨[], token :: rest, rfl, hafter⟩, hpossible⟩

theorem addTokens_ensures (h : Underway base origin holdings source cluster)
    (stays : base.isDeleting = false) (target : TargetSet) :
    ((source.missingTokens target.tokens).foldlM ClusterConfig.addToken source).Ensures
      (Cluster.faulty may) cluster
      (fun stored after => Underway base origin (holdings.guarded target) stored after)
      fun _ after => (∃ done rest, done ++ rest = holdings.missing target.tokens ∧
        origin.Reaches base (done.foldl Holdings.add holdings) after) ∧
        Refusal.Possible may := by
  have hmissing : source.missingTokens target.tokens = holdings.missing target.tokens := by
    unfold ClusterConfig.missingTokens ClusterConfig.holds Holdings.missing
    rw [h.held_eq]
  rw [hmissing]
  exact foldlM_ensures (fun hany => hany.addToken_ensures stays) h _

theorem copyTo_ensures (h : Underway base origin holdings source cluster)
    (namespaces : List String) :
    (source.copyTo namespaces).Ensures (Cluster.faulty may) cluster
      (fun _ after => (∀ ns ∈ namespaces, holdings.MayBring origin.namespaces ns) ∧
        Underway base origin (holdings.brought namespaces) source after)
      fun _ after => (∃ done rest, done ++ rest = namespaces ∧
        (∀ ns ∈ done, holdings.MayBring origin.namespaces ns) ∧
        origin.Reaches base (holdings.brought done) after) ∧
        (Refusal.Possible may ∨
          ¬ ∀ ns ∈ namespaces, holdings.MayBring origin.namespaces ns) := by
  unfold ClusterConfig.copyTo
  rw [ClusterConfig.spec_of_alike h.alike]
  induction namespaces generalizing holdings cluster with
  | nil => exact ⟨by simp, h⟩
  | cons ns rest ih =>
    rw [List.mapM_cons, bind_assoc]
    refine (h.synchronize_ensures ns).bind ?_ ?_
    · rintro synced after ⟨hns, hafter⟩
      have hsame : ∀ other, (holdings.bring ns).MayBring origin.namespaces other ↔
          holdings.MayBring origin.namespaces other := fun other => Holdings.mayBring_bring hns
      rw [pure_bind]
      refine (ih hafter).bind ?_ ?_
      · rintro outcomes after ⟨hrest, hdone⟩
        refine ⟨?_, hdone⟩
        rw [List.forall_mem_cons]
        exact ⟨hns, fun other mem => (hsame other).mp (hrest other mem)⟩
      · rintro error after ⟨⟨done, others, heq, hbring, hreaches⟩, hcause⟩
        refine ⟨⟨ns :: done, others, by rw [List.cons_append, heq], ?_, hreaches⟩, ?_⟩
        · rw [List.forall_mem_cons]
          exact ⟨hns, fun other mem => (hsame other).mp (hbring other mem)⟩
        · refine hcause.imp id fun hno hall => hno fun other mem => ?_
          exact (hsame other).mpr (hall other (List.mem_cons_of_mem _ mem))
    · rintro error after ⟨hreaches, hcause⟩
      refine ⟨⟨[], ns :: rest, rfl, by simp, hreaches⟩, hcause.imp id fun hno hall => ?_⟩
      exact hno (hall ns List.mem_cons_self)

theorem settle_ensures (h : Underway base origin holdings source cluster)
    (stays : base.isDeleting = false) (target : TargetSet) :
    (if target.all then source.dropTokens source.namespaceTokens
      else pure source : Program ClusterConfig).Ensures (Cluster.faulty may) cluster
      (fun stored after => Underway base origin (holdings.settled target) stored after)
      fun _ after => (target.all = true ∧ ∃ done rest,
        done ++ rest = holdings.tokens.filter Holdings.ofNamespace ∧
        origin.Reaches base (done.foldl Holdings.drop holdings) after) ∧
        Refusal.Possible may := by
  unfold Holdings.settled
  by_cases hall : target.all
  · rw [if_pos hall, if_pos hall]
    have htokens : source.namespaceTokens = holdings.tokens.filter Holdings.ofNamespace := by
      rw [← h.held_eq]
      rfl
    rw [htokens]
    refine (foldlM_ensures (fun hany => hany.dropToken_ensures stays) h _).mono
      (fun _ _ hdone => hdone) ?_
    rintro error after ⟨hinterrupted, hpossible⟩
    exact ⟨⟨hall, hinterrupted⟩, hpossible⟩
  · rw [if_neg hall, if_neg hall]
    exact h

/-- A round makes of the holdings what its stretches make of them, one after the other, or is
cut short in one of them. Without refusals it succeeds wherever it can. -/
theorem apply_ensures (h : Underway base origin holdings source cluster)
    (stays : base.isDeleting = false) {target : TargetSet}
    (htarget : NamespaceList.target base.spec.namespaceList origin.namespaces = target) :
    source.apply.Ensures (Cluster.faulty may) cluster
      (fun _ after => ∃ middle,
        (¬ Refusal.Loses may → middle = holdings.retired target ∧
          holdings.Feasible target origin.namespaces) ∧
        (∀ ns ∈ target.namespaces, middle.MayBring origin.namespaces ns) ∧
        origin.Reaches base (middle.finished target) after)
      fun _ after => (∃ next,
        (¬ Refusal.Loses may → holdings.Interrupted target origin.namespaces next) ∧
        origin.Reaches base next after) ∧
        (Refusal.Possible may ∨ ¬ holdings.Feasible target origin.namespaces) := by
  -- Of every stretch comes first what there is when it fails, then the rest of the round.
  unfold ClusterConfig.apply
  rw [ClusterConfig.spec_of_alike h.alike]
  refine (cluster.resolve_ensures _).bind ?_ ?_
  rotate_left
  · rintro error after ⟨rfl, hpossible⟩
    exact ⟨⟨holdings, fun _ => .clearing (.start _), h.reaches⟩, .inl hpossible⟩
  rintro resolved after ⟨rfl, rfl⟩
  rw [h.reaches.spares.namespaces, htarget]
  refine (h.retire_ensures stays target).bind ?_ ?_
  rotate_left
  · rintro error after ⟨hinterrupted, hcause⟩
    exact ⟨hinterrupted, hcause.imp id fun hno hfeasible => hno.2 (hfeasible.named hno.1)⟩
  rintro ⟨stored, pruned⟩ after ⟨named, middle, hretired, hmiddle⟩
  -- Where the store loses nothing, copies may be put where they might before.
  have hbring : ¬ Refusal.Loses may → ∀ ns ∈ target.namespaces,
      ((middle.guarded target).MayBring origin.namespaces ns ↔
        holdings.MayBring origin.namespaces ns) := by
    intro hkeeps ns mem
    rw [hretired hkeeps, Holdings.mayBring_guarded, Holdings.mayBring_retired mem]
  refine (hmiddle.addTokens_ensures stays target).bind ?_ ?_
  rotate_left
  · rintro error after ⟨⟨done, rest, heq, hafter⟩, hpossible⟩
    refine ⟨⟨_, fun hkeeps => ?_, hafter⟩, .inl hpossible⟩
    obtain rfl := hretired hkeeps
    exact .guarding heq
  intro stored after hguarded
  refine (hguarded.copyTo_ensures target.namespaces).bind ?_ ?_
  rotate_left
  · rintro error after ⟨⟨done, rest, heq, hdone, hafter⟩, hcause⟩
    constructor
    · refine ⟨_, fun hkeeps => ?_, hafter⟩
      have hbring := hbring hkeeps
      obtain rfl := hretired hkeeps
      exact .bringing heq fun ns mem =>
        (hbring ns (heq ▸ List.mem_append_left _ mem)).mp (hdone ns mem)
    · refine hcause.elim .inl fun hno => ?_
      by_cases hloses : Refusal.Loses may
      · obtain ⟨refusal, hmay, -⟩ := hloses
        exact .inl ⟨refusal, hmay⟩
      · exact .inr fun hfeasible => hno fun ns mem =>
          (hbring hloses ns mem).mpr (hfeasible.bring ns mem)
  rintro outcomes after ⟨hall, hbrought⟩
  dsimp only
  rw [← apply_ite (· >>= _)]
  refine (hbrought.settle_ensures stays target).bind ?_ ?_
  rotate_left
  · rintro error after ⟨⟨hevery, done, rest, heq, hafter⟩, hpossible⟩
    refine ⟨⟨_, fun hkeeps => ?_, hafter⟩, .inl hpossible⟩
    have hbring := hbring hkeeps
    obtain rfl := hretired hkeeps
    exact .settling hevery (fun ns mem => (hbring ns mem).mp (hall ns mem)) heq
  intro stored after hsettled
  rw [Program.ensures_bind, Program.ensures_discard]
  refine (hsettled.recordProcessed_ensures target.namespaces).mono ?_ ?_
  · intro recorded after hrecorded
    refine ⟨middle, fun hkeeps => ⟨hretired hkeeps, named, fun ns mem => ?_⟩, ?_,
      hrecorded.reaches⟩
    · exact (hbring hkeeps ns mem).mp (hall ns mem)
    · exact fun ns mem => Holdings.mayBring_guarded.mp (hall ns mem)
  · rintro error after ⟨hafter, hpossible⟩
    refine ⟨⟨_, fun hkeeps => ?_, hafter⟩, .inl hpossible⟩
    have hbring := hbring hkeeps
    obtain rfl := hretired hkeeps
    exact .recording fun ns mem => (hbring ns mem).mp (hall ns mem)

end Underway

/-! ## A round for a stored source -/

/-- What a round for a source that stays may leave when it succeeds. -/
def Succeeds (may : Refusal → Prop) (base : ClusterConfig) (origin : Cluster)
    (target : TargetSet) (after : Cluster) : Prop :=
  ∃ middle,
    (¬ Refusal.Loses may → middle = (origin.holdings base).retired target ∧
      (origin.holdings base).Feasible target origin.namespaces) ∧
    (∀ ns ∈ target.namespaces, middle.MayBring origin.namespaces ns) ∧
    origin.Reaches base (middle.finished target) after

/-- What a round for a source that stays may leave when it fails. -/
def Fails (may : Refusal → Prop) (base : ClusterConfig) (origin : Cluster)
    (target : TargetSet) (after : Cluster) : Prop :=
  (∃ next,
    (¬ Refusal.Loses may →
      (origin.holdings base).Interrupted target origin.namespaces next) ∧
    origin.Reaches base next after) ∧
  (Refusal.Possible may ∨ ¬ (origin.holdings base).Feasible target origin.namespaces)

/-- What a round does once the source was looked up. -/
def attend : Except Error ClusterConfig → Program Action
  | .error error => if error.isNotFound then return .awaitChange else Program.fail error
  | .ok source => do
    match ← source.round.attempt with
    | .ok report =>
      match report.filter (!·.isEmpty) with
      | some report => Program.tell ⟨source, .normal, "Synced", report.note⟩
      | none => pure ()
      return .awaitChange
    | .error error =>
      Program.tell ⟨source, .warning, "ReconcileFailed", error.message⟩
      Program.fail error

theorem reconcile_eq (key : ObjectKey) :
    reconcile key = (Program.ask (.getSource key)).attempt >>= attend := by
  unfold reconcile
  congr 1
  funext fetched
  cases fetched <;> rfl

variable {target : TargetSet}

/-- What is told in events changes nothing in the cluster. -/
theorem attend_of_round {onDone onFail : Cluster → Prop}
    (hround : source.round.Ensures (Cluster.faulty may) cluster (fun _ after => onDone after)
      fun _ after => onFail after) :
    (attend (.ok source)).Ensures (Cluster.faulty may) cluster (fun _ after => onDone after)
      fun _ after => onFail after := by
  unfold attend
  dsimp only
  rw [Program.ensures_bind, Program.ensures_attempt]
  refine hround.mono ?_ fun _ _ hfail => hfail
  intro report after hafter
  dsimp only
  split <;> exact hafter

theorem round_of_stays (stays : source.isDeleting = false) {onDone onFail : Cluster → Prop}
    (happly : source.apply.Ensures (Cluster.faulty may) cluster (fun _ after => onDone after)
      fun _ after => onFail after) :
    source.round.Ensures (Cluster.faulty may) cluster (fun _ after => onDone after)
      fun _ after => onFail after := by
  unfold ClusterConfig.round
  rw [stays, if_neg Bool.false_ne_true]
  exact happly.bind (fun _ _ hdone => hdone) fun _ _ hfail => hfail

theorem round_of_leaves (leaves : source.isDeleting = true) {onDone onFail : Cluster → Prop}
    (hcleanup : source.cleanup.Ensures (Cluster.faulty may) cluster (fun _ after => onDone after)
      fun _ after => onFail after) :
    source.round.Ensures (Cluster.faulty may) cluster (fun _ after => onDone after)
      fun _ after => onFail after := by
  unfold ClusterConfig.round
  rw [if_pos leaves]
  exact hcleanup.bind (fun _ _ hdone => hdone) fun _ _ hfail => hfail

theorem attend_ensures (keyed : cluster.WellKeyed)
    (stored : cluster.sources[base.metadata.key]? = some source)
    (alike : source.bare = base.bare) (stays : base.isDeleting = false)
    (htarget : NamespaceList.target base.spec.namespaceList cluster.namespaces = target) :
    (attend (.ok source)).Ensures (Cluster.faulty may) cluster
      (fun _ after => Succeeds may base cluster target after)
      fun _ after => Fails may base cluster target after :=
  attend_of_round (round_of_stays ((ClusterConfig.deleting_of_alike alike).trans stays)
    ((Underway.start keyed stored alike).apply_ensures stays htarget))

/-- A round for a stored source is what is done once it was looked up. It does nothing if the
store reports the source itself as missing. -/
theorem reconcile_of_attend {key : ObjectKey} (stored : cluster.sources[key]? = some source)
    {onDone onFail : Cluster → Prop}
    (hattend : (attend (.ok source)).Ensures (Cluster.faulty may) cluster
      (fun _ after => onDone after) fun _ after => onFail after)
    (hlost : Refusal.Loses may → onDone cluster)
    (hrefused : Refusal.Possible may → onFail cluster) :
    (reconcile key).Ensures (Cluster.faulty may) cluster (fun _ after => onDone after)
      fun _ after => onFail after := by
  rw [reconcile_eq, Program.ensures_bind, Program.ensures_attempt]
  refine Program.ensures_ask_faulty _ ?_ ?_ ?_
  · intro fetched after ha
    rw [answer_getSource stored] at ha
    cases ha
    exact hattend
  · intro error after ha
    rw [answer_getSource stored] at ha
    cases ha
  · intro refusal hmay
    unfold attend
    dsimp only
    by_cases hmissing : ((StoreCall.getSource key).error (.refused refusal)).isNotFound
    · rw [if_pos hmissing]
      exact hlost (StoreCall.loses_of_isNotFound hmay hmissing)
    · rw [if_neg hmissing]
      exact hrefused ⟨refusal, hmay⟩

/-- A round for a source that is not there does nothing. -/
theorem reconcile_of_missing {key : ObjectKey} (missing : cluster.sources[key]? = none) :
    (reconcile key).Ensures (Cluster.faulty may) cluster (fun _ after => after = cluster)
      fun _ after => after = cluster := by
  have herror : ∀ error, (attend (.error error)).Ensures (Cluster.faulty may) cluster
      (fun _ after => after = cluster) fun _ after => after = cluster := by
    intro error
    unfold attend
    dsimp only
    split <;> rfl
  rw [reconcile_eq, Program.ensures_bind, Program.ensures_attempt]
  refine Program.ensures_ask_faulty _ ?_ ?_ fun refusal _ => herror _
  · intro fetched after ha
    simp only [answer, perform, find, missing, bind, Except.bind] at ha
    cases ha
  · intro error after ha
    obtain rfl := eq_of_answer_eq_error ha
    exact herror error

/-- A round for a stored source that stays. -/
theorem reconcile_ensures (keyed : cluster.WellKeyed)
    (stored : cluster.sources[base.metadata.key]? = some source)
    (alike : source.bare = base.bare) (stays : base.isDeleting = false)
    (htarget : NamespaceList.target base.spec.namespaceList cluster.namespaces = target) :
    (reconcile base.metadata.key).Ensures (Cluster.faulty may) cluster
      (fun _ after => Refusal.Loses may ∧ after = cluster ∨ Succeeds may base cluster target after)
      fun _ after => Fails may base cluster target after := by
  refine reconcile_of_attend stored ?_ (fun hloses => .inl ⟨hloses, rfl⟩) fun hpossible => ?_
  · exact (attend_ensures keyed stored alike stays htarget).mono (fun _ _ hdone => .inr hdone)
      fun _ _ hfail => hfail
  · exact ⟨⟨_, fun _ => .clearing (.start _), (Underway.start keyed stored alike).reaches⟩,
      .inl hpossible⟩

end Cluster

/-- One round in a simulation. -/
def Simulation.reconcile (simulation : Simulation) (key : ObjectKey) :
    Except Error Action × Simulation :=
  (ConfigFanout.reconcile key).run Simulation.store simulation

namespace Simulation

variable {simulation : Simulation} {base source : ClusterConfig} {target : TargetSet}
  {may : Refusal → Prop}

/-- What is sure to hold after a round, whether it succeeds or fails, holds of the cluster that
it leaves. -/
theorem Undisturbed.reconcile_leaves (h : simulation.Undisturbed may) {key : ObjectKey}
    {onEnd : Cluster → Prop}
    (hensures : (ConfigFanout.reconcile key).Ensures (Cluster.faulty may) simulation.cluster
      (fun _ after => onEnd after) fun _ after => onEnd after) :
    onEnd (simulation.reconcile key).2.cluster := by
  have hboth := hensures.simulate h
  cases hresult : (simulation.reconcile key).1 with
  | ok action => exact hboth.1 action _ (Prod.ext hresult rfl)
  | error error => exact hboth.2 error _ (Prod.ext hresult rfl)

/-- A round that succeeds where nothing is lost could succeed, and made of the holdings what
its stretches make of them. -/
theorem Undisturbed.reconcile_ok (h : simulation.Undisturbed may)
    (hkeeps : ¬ Refusal.Loses may) (keyed : simulation.cluster.WellKeyed)
    (stored : simulation.cluster.sources[base.metadata.key]? = some source)
    (alike : source.bare = base.bare) (stays : base.isDeleting = false)
    (htarget : NamespaceList.target base.spec.namespaceList simulation.cluster.namespaces =
      target)
    {action : Action} (hok : (simulation.reconcile base.metadata.key).1 = .ok action) :
    (simulation.cluster.holdings base).Feasible target simulation.cluster.namespaces ∧
      simulation.cluster.Reaches base
        (((simulation.cluster.holdings base).retired target).finished target)
        (simulation.reconcile base.metadata.key).2.cluster := by
  have hensures : (ConfigFanout.reconcile base.metadata.key).Ensures (Cluster.faulty may) _ _ _ :=
    Cluster.reconcile_ensures keyed stored alike stays htarget
  rcases (hensures.simulate h).1 action _ (Prod.ext hok rfl) with ⟨hloses, -⟩ | hsucceeds
  · exact absurd hloses hkeeps
  · obtain ⟨middle, hmiddle, -, hreaches⟩ := hsucceeds
    obtain ⟨rfl, hfeasible⟩ := hmiddle hkeeps
    exact ⟨hfeasible, hreaches⟩

/-- A round that fails where nothing is lost was cut short, by a refusal or because it could
not succeed. -/
theorem Undisturbed.reconcile_error (h : simulation.Undisturbed may)
    (hkeeps : ¬ Refusal.Loses may) (keyed : simulation.cluster.WellKeyed)
    (stored : simulation.cluster.sources[base.metadata.key]? = some source)
    (alike : source.bare = base.bare) (stays : base.isDeleting = false)
    (htarget : NamespaceList.target base.spec.namespaceList simulation.cluster.namespaces =
      target)
    {error : Error} (herror : (simulation.reconcile base.metadata.key).1 = .error error) :
    (∃ next, (simulation.cluster.holdings base).Interrupted target
        simulation.cluster.namespaces next ∧
      simulation.cluster.Reaches base next (simulation.reconcile base.metadata.key).2.cluster) ∧
      (Refusal.Possible may ∨ ¬ (simulation.cluster.holdings base).Feasible target
        simulation.cluster.namespaces) := by
  have hensures : (ConfigFanout.reconcile base.metadata.key).Ensures (Cluster.faulty may) _ _ _ :=
    Cluster.reconcile_ensures keyed stored alike stays htarget
  obtain ⟨⟨next, hinterrupted, hreaches⟩, hcause⟩ :=
    (hensures.simulate h).2 error _ (Prod.ext herror rfl)
  exact ⟨⟨next, hinterrupted hkeeps, hreaches⟩, hcause⟩

end Simulation

/-! ## A cluster to try rounds on -/

/-- A source that was never worked on. -/
def ClusterConfig.trial (namespaceList : String) : ClusterConfig where
  metadata := { name := some "app-config", ns := some "default" }
  spec := { namespaceList, kind := .configMap, data := {("k", "v")} }

/-- A cluster with some namespaces, and that source in it. -/
def Cluster.trial (namespaces : List String) (namespaceList : String) : Cluster :=
  ({ namespaces } : Cluster).putSource ⟨"default", "app-config"⟩ (.trial namespaceList)

theorem Cluster.keyed_empty (namespaces : List String) :
    ({ namespaces } : Cluster).WellKeyed := by
  constructor
  · intro key source h
    simp at h
  · intro kind key artifact h
    cases kind <;> simp [artifacts] at h

theorem Cluster.keyed_trial (namespaces : List String) (namespaceList : String) :
    (Cluster.trial namespaces namespaceList).WellKeyed :=
  (keyed_empty namespaces).putSource (.trial namespaceList)

end ConfigFanout
