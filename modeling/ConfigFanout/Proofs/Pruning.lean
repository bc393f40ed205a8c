import ConfigFanout.Proofs.PhaseOrder
import ConfigFanout.Proofs.Reports

-- What a round makes of the namespaces that a source was in and no longer goes to. They are gone
-- through in order, up to the first one that holds no artifact of the source's kind and name. This
-- gap parts those that are cleared from those that nothing happens to.
namespace ConfigFanout

/-- The namespaces that a source was in and does not go to any more. -/
def ClusterConfig.stale (source : ClusterConfig) (target : TargetSet) : List String :=
  NamespaceList.stale target.namespaces source.processed

/-- The number of the first namespace in a list without an artifact of the kind and the name of a
source, or the length of the list if there is none. -/
def Cluster.gap (cluster : Cluster) (source : ClusterConfig) (namespaces : List String) : Nat :=
  namespaces.findIdx fun ns =>
    !(cluster.artifacts source.spec.kind).contains (⟨ns, source.metadata.anyName⟩ : ObjectKey)

/-! ## How far the work gets -/

namespace Holdings

variable {base : ClusterConfig} {holdings : Holdings base.spec.kind} {list : List String}
  {ns : String}

/-- The number of the first namespace without a copy. -/
def gap (holdings : Holdings base.spec.kind) (list : List String) : Nat :=
  list.findIdx fun ns => !decide (holdings.Occupied ns)

theorem gap_holdings (cluster : Cluster) (list : List String) :
    (cluster.holdings base).gap list = cluster.gap base list := by
  have hsame : (fun ns => !decide ((cluster.holdings base).Occupied ns)) = fun ns =>
      !(cluster.artifacts base.spec.kind).contains (⟨ns, base.metadata.anyName⟩ : ObjectKey) := by
    funext ns
    congr 1
    rw [Bool.eq_iff_iff, decide_eq_true_iff, occupied_holdings]
  rw [gap, hsame]
  rfl

/-- The namespace without a copy is the last one that the work gets to. -/
theorem reach_eq_take (holdings : Holdings base.spec.kind) (list : List String) :
    holdings.reach list = list.take (holdings.gap list + 1) := by
  induction list with
  | nil => rfl
  | cons ns rest ih =>
    rw [reach, gap, List.findIdx_cons, ih]
    by_cases hns : holdings.Occupied ns
    · simp [hns, gap]
    · simp [hns]

theorem mem_reach_iff :
    ns ∈ holdings.reach list ↔ ∃ i, i ≤ holdings.gap list ∧ list[i]? = some ns := by
  rw [reach_eq_take, List.mem_iff_getElem?]
  simp only [List.getElem?_take, Nat.lt_succ_iff]
  constructor
  · rintro ⟨i, hi⟩
    split at hi
    · next hle => exact ⟨i, hle, hi⟩
    · cases hi
  · rintro ⟨i, hle, hi⟩
    exact ⟨i, by rw [if_pos hle, hi]⟩

theorem not_mem_reach (nodup : list.Nodup) {j : Nat} (late : holdings.gap list < j)
    (hj : list[j]? = some ns) : ns ∉ holdings.reach list := by
  intro mem
  obtain ⟨i, hle, hi⟩ := mem_reach_iff.mp mem
  obtain ⟨hlt, -⟩ := List.getElem?_eq_some_iff.mp hi
  have heq : i = j := (List.getElem?_inj hlt nodup).mp (hi.trans hj.symm)
  omega

theorem occupied_of_lt {i : Nat} (early : i < holdings.gap list) (hi : list[i]? = some ns) :
    holdings.Occupied ns := by
  obtain ⟨hlt, rfl⟩ := List.getElem?_eq_some_iff.mp hi
  have hnot := List.not_of_lt_findIdx early
  simpa using hnot

theorem gap_eq_length :
    holdings.gap list = list.length ↔ ∀ ns ∈ list, holdings.Occupied ns := by
  rw [gap, List.findIdx_eq_length]
  simp

/-! ## Which copies go -/

/-- Whether there is a copy in a namespace that belongs to no other source. -/
def Takes (holdings : Holdings base.spec.kind) (ns : String) : Bool :=
  (holdings.copies ns).any fun copy => (copy.otherOwner? base).isNone

/-- The namespaces before the gap whose copies belong to no other source. -/
def takings (holdings : Holdings base.spec.kind) (list : List String) : List String :=
  (list.takeWhile fun ns => holdings.Occupied ns).filter holdings.Takes

theorem takings_of_vacant (rest : List String) (h : holdings.copies ns = none) :
    holdings.takings (ns :: rest) = [] := by
  simp [takings, Occupied, h]

theorem takings_of_found {copy : Artifact base.spec.kind} (rest : List String)
    (h : holdings.copies ns = some copy) :
    holdings.takings (ns :: rest) =
      if (copy.otherOwner? base).isNone then ns :: holdings.takings rest
      else holdings.takings rest := by
  have hoccupied : holdings.Occupied ns := by simp [Occupied, h]
  simp [takings, hoccupied, List.filter_cons, Takes, h]

/-- In a cluster they are those before the gap without the ones of other sources. -/
theorem takings_holdings (cluster : Cluster) (list : List String) :
    (cluster.holdings base).takings list = (list.take (cluster.gap base list)).filter fun ns =>
      !((cluster.artifacts base.spec.kind)[(⟨ns, base.metadata.anyName⟩ : ObjectKey)]?.any
        fun copy => (copy.otherOwner? base).isSome) := by
  have hbegun : (list.takeWhile fun ns => (cluster.holdings base).Occupied ns) =
      list.take (cluster.gap base list) := by
    rw [← gap_holdings, List.takeWhile_eq_take_findIdx_not]
    rfl
  rw [takings, ← hbegun]
  refine List.filter_congr fun ns mem => ?_
  have hoccupied : (cluster.holdings base).Occupied ns := by
    simpa using List.all_eq_true.mp List.all_takeWhile ns mem
  obtain ⟨copy, hcopy⟩ := Option.isSome_iff_exists.mp hoccupied
  obtain ⟨artifact, found, rfl⟩ := Cluster.exists_of_copies hcopy
  rw [Takes, hcopy, found, Option.any_some, Option.any_some, Artifact.otherOwner?_sansVersion]
  cases artifact.otherOwner? base <;> rfl

theorem takings_congr {other : Holdings base.spec.kind}
    (h : ∀ ns ∈ list, other.copies ns = holdings.copies ns) :
    other.takings list = holdings.takings list := by
  induction list with
  | nil => rfl
  | cons ns rest ih =>
    have hns := h ns List.mem_cons_self
    have hrest := ih fun ns mem => h ns (List.mem_cons_of_mem _ mem)
    cases hcopy : holdings.copies ns with
    | none =>
      rw [takings_of_vacant rest hcopy, takings_of_vacant rest (hns.trans hcopy)]
    | some copy =>
      rw [takings_of_found rest hcopy, takings_of_found rest (hns.trans hcopy), hrest]

end Holdings

namespace Cluster

variable {may : Refusal → Prop} {base source : ClusterConfig} {origin cluster : Cluster}
  {holdings : Holdings base.spec.kind} {target : TargetSet}

namespace Underway

/-- Taking copies away returns where there were some that belong to no other source. -/
theorem pruneFrom_takes (h : Underway base origin holdings source cluster)
    (stays : base.isDeleting = false) (hkeeps : ¬ Refusal.Loses may) {list : List String}
    (nodup : list.Nodup) :
    (source.pruneFrom list).Ensures (faulty may) cluster
      (fun pruned _ => pruned.namespaces = holdings.takings list) fun _ _ => True := by
  induction list generalizing holdings source cluster with
  | nil => rfl
  | cons ns rest ih =>
    obtain ⟨fresh, nodup⟩ := List.nodup_cons.mp nodup
    rw [ClusterConfig.pruneFrom, ClusterConfig.spec_of_alike h.alike]
    refine (h.withdraw_ensures ns).bind ?_ fun _ _ _ => trivial
    rintro removal after ⟨-, middle, hwithdrawn, hmiddle⟩
    refine (hmiddle.dropToken_ensures stays ns).bind ?_ fun _ _ _ => trivial
    intro stored final hstored
    cases hwithdrawn with
    | absent hnone => exact (Holdings.takings_of_vacant rest (hnone.resolve_right hkeeps)).symm
    | @foreign copy hcopy hother =>
      refine (ih hstored nodup).mono ?_ fun _ _ _ => trivial
      intro pruned _ hnames
      have hnot : ¬ (copy.otherOwner? base).isNone := by simp [Option.isSome_iff_ne_none.mp hother]
      rw [Holdings.takings_of_found rest hcopy, if_neg hnot]
      exact hnames.trans (Holdings.takings_congr fun _ _ => rfl)
    | @deleted copy hcopy hown =>
      refine (ih hstored nodup).bind ?_ fun _ _ _ => trivial
      intro pruned _ hnames
      -- What was taken away here says nothing about the rest of the list.
      have hrest : ((holdings.withCopy ns none).drop ns).takings rest = holdings.takings rest := by
        refine Holdings.takings_congr fun other mem => ?_
        rw [Holdings.copies_drop, Holdings.copies_withCopy, if_neg]
        rintro rfl
        exact fresh mem
      rw [Holdings.takings_of_found rest hcopy, if_pos (by simp [hown]), ← hrest, ← hnames]
      rfl

/-- So does the work on stale namespaces. -/
theorem retire_takes (h : Underway base origin holdings source cluster)
    (stays : base.isDeleting = false) (hkeeps : ¬ Refusal.Loses may)
    (hbefore : holdings.processed ≠ []) :
    (source.retire target).Ensures (faulty may) cluster
      (fun result _ => result.2 = holdings.takings (holdings.stale target)) fun _ _ => True := by
  unfold ClusterConfig.retire
  rw [h.processed_eq, if_neg (by simpa using hbefore)]
  refine (h.pruneFrom_takes stays hkeeps (NamespaceList.nodup_stale _ _)).bind ?_
    fun _ _ _ => trivial
  intro pruned after hnames
  have hrecord : ∀ (stored : ClusterConfig) (after : Cluster),
      (do let stored ← stored.recordProcessed target.namespaces
          return (stored, pruned.namespaces) : Program (ClusterConfig × List String)).Ensures
        (faulty may) after
        (fun result _ => result.2 = holdings.takings (holdings.stale target))
        fun _ _ => True :=
    fun stored after => (Program.ensures_true _).bind (fun _ _ _ => hnames) fun _ _ _ => trivial
  dsimp only
  split
  · exact (Program.ensures_true _).bind (fun stored after _ => hrecord stored after)
      fun _ _ _ => trivial
  · exact hrecord _ _

/-- A round reports the namespaces where there were copies of its own before the gap. -/
theorem apply_takes (h : Underway base origin holdings source cluster)
    (stays : base.isDeleting = false) (hkeeps : ¬ Refusal.Loses may)
    (hbefore : holdings.processed ≠ [])
    (htarget : NamespaceList.target base.spec.namespaceList origin.namespaces = target) :
    source.apply.Ensures (faulty may) cluster
      (fun report _ => report.pruned = holdings.takings (holdings.stale target))
      fun _ _ => True := by
  unfold ClusterConfig.apply
  rw [ClusterConfig.spec_of_alike h.alike]
  refine (cluster.resolve_ensures _).bind ?_ fun _ _ _ => trivial
  rintro resolved after ⟨rfl, rfl⟩
  rw [h.reaches.spares.namespaces, htarget]
  refine (h.retire_takes stays hkeeps hbefore).bind ?_ fun _ _ _ => trivial
  -- All that comes later leaves the report as it is.
  rintro ⟨retired, pruned⟩ after hnames
  refine (Program.ensures_true _).bind (fun guarded after _ => ?_) fun _ _ _ => trivial
  refine (Program.ensures_true _).bind (fun outcomes after _ => ?_) fun _ _ _ => trivial
  dsimp only
  rw [← apply_ite (· >>= _)]
  refine (Program.ensures_true _).bind (fun settled after _ => ?_) fun _ _ _ => trivial
  exact (Program.ensures_true _).bind (fun _ _ _ => hnames) fun _ _ _ => trivial

end Underway

/-! ## Places where nothing is put up -/

/-- A place where a program puts nothing up is as it was in the end, or empty. -/
theorem traces_place {α : Type} (program : Program α) (cluster : Cluster) (kind : ArtifactKind)
    (place : ObjectKey) :
    program.Traces (faulty may) cluster fun acts _ after =>
      (∀ act ∈ acts, act.placed? ≠ some place) →
        (after.artifacts kind)[place]? = (cluster.artifacts kind)[place]? ∨
          (after.artifacts kind)[place]? = none := by
  induction program generalizing cluster with
  | done result => exact fun _ => .inl rfl
  | publish event next ih =>
    exact (ih cluster).mono fun acts _ _ h hnone => h fun act mem =>
      hnone act (List.mem_cons_of_mem _ mem)
  | call request next ih =>
    intro answer after ha
    refine (ih answer after).mono ?_
    intro acts _ final h hnone
    rw [List.forall_mem_cons] at hnone
    have hlater := h hnone.2
    -- One call leaves the place as it is, or takes away what is there.
    have hone : (after.artifacts kind)[place]? = (cluster.artifacts kind)[place]? ∨
        (after.artifacts kind)[place]? = none := by
      rcases granted_or_left ha with ⟨value, -, grants⟩ | ⟨error, -, rfl⟩
      · by_cases htouches : Touches kind place request
        · cases htouches with
          | create hkey => exact absurd (congrArg some hkey) hnone.1
          | replace hkey => exact absurd (congrArg some hkey) hnone.1
          | delete =>
            cases grants
            rw [artifacts_removeArtifact, if_pos rfl]
            exact .inr rfl
        · exact .inl (grants.artifact_eq htouches)
      · exact .inl rfl
    rcases hlater with hsame | hgone
    · rw [hsame]
      exact hone
    · exact .inr hgone

/-! ## What is left after a round -/

/-- What a round without refusals makes of the namespaces that its source does not go to any more,
with the gap among them. -/
structure Trimmed (source : ClusterConfig) (target : TargetSet) (gap : Nat) (before after : Cluster)
    (final : ClusterConfig) : Prop where
  /-- Before the gap there were copies, and only those of other sources are left. -/
  taken : ∀ i ns, i < gap → (source.stale target)[i]? = some ns →
    ∃ copy : Artifact source.spec.kind,
      (before.artifacts source.spec.kind)[(⟨ns, source.metadata.anyName⟩ : ObjectKey)]? =
        some copy ∧
      (after.artifacts source.spec.kind)[(⟨ns, source.metadata.anyName⟩ : ObjectKey)]? =
        if (copy.otherOwner? source).isSome then some copy else none
  /-- After the gap every artifact is as it was. -/
  spared : ∀ j (place : ObjectKey), gap < j → (source.stale target)[j]? = some place.ns →
    ∀ kind, (after.artifacts kind)[place]? = (before.artifacts kind)[place]?
  /-- The tokens up to the gap are gone, but that for all namespaces is there if they are the
  target. -/
  dropped : ∀ i token, i ≤ gap → (source.stale target)[i]? = some token →
    (token ∈ final.metadata.held ↔ target.all = true ∧ token = everyToken)
  /-- Tokens after the gap are held as before, if the target is a list. -/
  kept : target.all = false → ∀ j token, gap < j → (source.stale target)[j]? = some token →
    (token ∈ final.metadata.held ↔ token ∈ source.metadata.held)
  /-- If the target is a list without that word, the token for all namespaces is only there if it
  was before, there was a gap, and the work had not got to the word by then. -/
  released : target.all = false → everyToken ∉ target.namespaces →
    (everyToken ∉ final.metadata.held ↔ everyToken ∉ source.metadata.held ∨
      gap = (source.stale target).length ∨
      ∃ i, i ≤ gap ∧ (source.stale target)[i]? = some everyToken)

end Cluster

namespace Holdings

variable {base : ClusterConfig} {holdings : Holdings base.spec.kind} {target : TargetSet}
  {live : List String} {ns token : String}

/-- Where a round does not put copies up, they are left, unless the work on stale ones gets to them
and they belong to no other source. -/
theorem copies_off_target (feasible : holdings.Feasible target live)
    (hns : ns ∉ target.namespaces) :
    ((holdings.retired target).finished target).copies ns =
      if ns ∈ holdings.reach (holdings.stale target) then
        (holdings.copies ns).filter fun copy => (copy.otherOwner? base).isSome
      else holdings.copies ns := by
  have hbring : ∀ ns ∈ target.namespaces, (holdings.retired target).MayBring live ns :=
    fun ns mem => (mayBring_retired mem).mpr (feasible.bring ns mem)
  rw [copies_finished hbring, if_neg hns, copies_retired_eq, pruned, copies_cleared]

theorem mem_tokens_rounded :
    token ∈ ((holdings.retired target).finished target).tokens ↔
      ((token ∈ holdings.tokens ∧ token ∉ holdings.reach (holdings.stale target) ∧
        ¬ (token = everyToken ∧ holdings.Releases target)) ∨ token ∈ target.tokens) ∧
      ¬ (target.all = true ∧ ofNamespace token = true) := by
  rw [mem_tokens_finished, mem_tokens_retired]

/-- With a list as the target no token comes back that is not in it. -/
theorem mem_tokens_of_explicit (explicit : target.all = false)
    (hnot : token ∉ target.namespaces) :
    token ∈ ((holdings.retired target).finished target).tokens ↔
      token ∈ holdings.tokens ∧ token ∉ holdings.reach (holdings.stale target) ∧
        ¬ (token = everyToken ∧ holdings.Releases target) := by
  have htokens : target.tokens = target.namespaces := by
    rw [TargetSet.tokens, explicit, if_neg Bool.false_ne_true]
  rw [mem_tokens_rounded, htokens]
  simp [explicit, hnot]

/-- Of the tokens that the work gets to, only that for all namespaces may come back. -/
theorem mem_tokens_of_reached (reached : token ∈ holdings.reach (holdings.stale target)) :
    token ∈ ((holdings.retired target).finished target).tokens ↔
      target.all = true ∧ token = everyToken := by
  have hstale : token ∉ target.namespaces :=
    (NamespaceList.mem_stale.mp (mem_of_mem_reach reached)).2
  rw [mem_tokens_rounded]
  cases hall : target.all with
  | false => simp [TargetSet.tokens, hall, hstale, reached]
  | true =>
    have htokens : target.tokens = [everyToken] := by rw [TargetSet.tokens, if_pos hall]
    rw [htokens, List.mem_singleton]
    simp only [reached, not_true_eq_false, false_and, and_false, false_or, true_and,
      and_iff_left_iff_imp]
    rintro rfl
    decide

end Holdings

namespace Cluster

variable {base : ClusterConfig} {before after : Cluster} {target : TargetSet}

theorem stale_holdings (stored : before.sources[base.metadata.key]? = some base) :
    (before.holdings base).stale target = base.stale target := by
  rw [Holdings.stale, Holdings.processed_holdings stored, ClusterConfig.stale]

namespace Reaches

variable (h : before.Reaches base
    (((before.holdings base).retired target).finished target) after)
  (feasible : (before.holdings base).Feasible target before.namespaces) {ns : String}

include h feasible

/-- A copy that the work has got to is gone, unless it belongs to another source. -/
theorem left_of_reached (hns : ns ∉ target.namespaces)
    (reached : ns ∈ (before.holdings base).reach ((before.holdings base).stale target))
    {copy : Artifact base.spec.kind}
    (found : (before.artifacts base.spec.kind)[(⟨ns, base.metadata.anyName⟩ : ObjectKey)]? =
      some copy) :
    (after.artifacts base.spec.kind)[(⟨ns, base.metadata.anyName⟩ : ObjectKey)]? =
      if (copy.otherOwner? base).isSome then some copy else none := by
  by_cases hother : (copy.otherOwner? base).isSome
  · rw [if_pos hother]
    exact h.spares.foreign _ copy found hother
  · have hcopies := congrFun (congrArg Holdings.copies h.holds) ns
    rw [Holdings.copies_off_target feasible hns, if_pos reached, copies_holdings, copies_holdings,
      found, Option.map_some, Option.filter_some, Artifact.otherOwner?_sansVersion, if_neg hother]
      at hcopies
    rw [if_neg hother]
    exact Option.map_eq_none_iff.mp hcopies

/-- What the work has not got to is as it was, if nothing was put up in its place. -/
theorem same_of_late {place : ObjectKey} (hns : place.ns ∉ target.namespaces)
    (late : place.ns ∉ (before.holdings base).reach ((before.holdings base).stale target))
    {kind : ArtifactKind}
    (unplaced : (after.artifacts kind)[place]? = (before.artifacts kind)[place]? ∨
      (after.artifacts kind)[place]? = none) :
    (after.artifacts kind)[place]? = (before.artifacts kind)[place]? := by
  rcases unplaced with hsame | hgone
  · exact hsame
  · by_cases hkind : kind = base.spec.kind
    · subst hkind
      by_cases hname : place.name = base.metadata.anyName
      · have hcopies := congrFun (congrArg Holdings.copies h.holds) place.ns
        rw [Holdings.copies_off_target feasible hns, if_neg late, copies_holdings,
          copies_holdings, ← hname, hgone] at hcopies
        rw [hgone]
        exact (Option.map_eq_none_iff.mp hcopies.symm).symm
      · exact h.spares.names place hname
    · rw [h.spares.kinds kind hkind]

end Reaches

theorem found_of_occupied {ns : String} (h : (before.holdings base).Occupied ns) :
    ∃ copy, (before.artifacts base.spec.kind)[(⟨ns, base.metadata.anyName⟩ : ObjectKey)]? =
      some copy := by
  rw [Holdings.occupied_holdings, Std.ExtTreeMap.contains_eq_isSome_getElem?] at h
  exact Option.isSome_iff_exists.mp h

/-- What the holdings are after a round says what is left of the namespaces, as nothing is put up
outside the target. -/
theorem Reaches.trimmed (h : before.Reaches base
      (((before.holdings base).retired target).finished target) after)
    (stored : before.sources[base.metadata.key]? = some base) (recorded : base.processed ≠ [])
    (feasible : (before.holdings base).Feasible target before.namespaces)
    (unplaced : ∀ (kind : ArtifactKind) (place : ObjectKey), place.ns ∉ target.namespaces →
      (after.artifacts kind)[place]? = (before.artifacts kind)[place]? ∨
        (after.artifacts kind)[place]? = none)
    {final : ClusterConfig} (hfinal : after.sources[base.metadata.key]? = some final) :
    Trimmed base target (before.gap base (base.stale target)) before after final := by
  have hstale := @stale_holdings base before target stored
  have hgap : (before.holdings base).gap (base.stale target) =
      before.gap base (base.stale target) := Holdings.gap_holdings before _
  have hheld : final.metadata.held =
      (((before.holdings base).retired target).finished target).tokens := by
    rw [← tokens_holdings hfinal, h.holds]
  have hbefore : (before.holdings base).tokens = base.metadata.held := tokens_holdings stored
  have hnot : ∀ {i : Nat} {ns : String}, (base.stale target)[i]? = some ns →
      ns ∉ target.namespaces :=
    fun hi => (NamespaceList.mem_stale.mp (List.mem_of_getElem? hi)).2
  have hreach : ∀ {i : Nat} {ns : String}, i ≤ before.gap base (base.stale target) →
      (base.stale target)[i]? = some ns →
      ns ∈ (before.holdings base).reach ((before.holdings base).stale target) := by
    intro i ns hle hi
    rw [hstale]
    exact Holdings.mem_reach_iff.mpr ⟨i, hgap ▸ hle, hi⟩
  have hlate : ∀ {j : Nat} {ns : String}, before.gap base (base.stale target) < j →
      (base.stale target)[j]? = some ns →
      ns ∉ (before.holdings base).reach ((before.holdings base).stale target) := by
    intro j ns hlt hj
    rw [hstale]
    exact Holdings.not_mem_reach (NamespaceList.nodup_stale _ _) (hgap ▸ hlt) hj
  refine ⟨fun i ns hlt hi => ?_, fun j place hlt hj kind => ?_, fun i token hle hi => ?_,
    fun explicit j token hlt hj => ?_, fun explicit hevery => ?_⟩
  · have hoccupied := Holdings.occupied_of_lt (hgap ▸ hlt) hi
    obtain ⟨copy, found⟩ := found_of_occupied hoccupied
    exact ⟨copy, found, h.left_of_reached feasible (hnot hi) (hreach (Nat.le_of_lt hlt) hi) found⟩
  · exact h.same_of_late feasible (hnot hj) (hlate hlt hj) (unplaced kind place (hnot hj))
  · rw [hheld]
    exact Holdings.mem_tokens_of_reached (hreach hle hi)
  · -- The namespace of the token is in the list, so the gap is not at its end.
    have hgapped : ¬ (before.holdings base).Releases target := by
      intro hreleases
      have hend := Holdings.gap_eq_length.mpr hreleases.2.2.1
      rw [hstale, hgap] at hend
      have hin := (List.getElem?_eq_some_iff.mp hj).1
      omega
    rw [hheld, Holdings.mem_tokens_of_explicit explicit (hnot hj), hbefore]
    simp [hlate hlt hj, hgapped]
  · have hreleases : (before.holdings base).Releases target ↔
        before.gap base (base.stale target) = (base.stale target).length := by
      rw [← hgap, Holdings.gap_eq_length, Holdings.Releases,
        Holdings.processed_holdings stored, hstale]
      simp [recorded, explicit, hevery]
    rw [hheld, Holdings.mem_tokens_of_explicit explicit hevery, hbefore, hreleases, hstale,
      Holdings.mem_reach_iff, hgap]
    simp only [true_and, Classical.not_and_iff_not_or_not, Classical.not_not]
    exact or_congr_right or_comm

end Cluster

/-! ## Whole rounds -/

theorem Simulation.answer_without_rules (cluster : Cluster) (request : StoreCall) :
    (Simulation.answer request { cluster }).1 = (cluster.answer request).1 := rfl

theorem Simulation.Undisturbed.unplaced {may : Refusal → Prop} {simulation : Simulation}
    {base : ClusterConfig} {target : TargetSet} (h : simulation.Undisturbed may)
    (keyed : simulation.cluster.WellKeyed)
    (stored : simulation.cluster.sources[base.metadata.key]? = some base)
    (stays : base.isDeleting = false)
    (htarget : NamespaceList.target base.spec.namespaceList simulation.cluster.namespaces =
      target) (kind : ArtifactKind) (place : ObjectKey) (hns : place.ns ∉ target.namespaces) :
    ((simulation.reconcile base.metadata.key).2.cluster.artifacts kind)[place]? =
        (simulation.cluster.artifacts kind)[place]? ∨
      ((simulation.reconcile base.metadata.key).2.cluster.artifacts kind)[place]? = none := by
  have hdeeds := (Cluster.reconcile_deeds keyed stored stays htarget).simulate h
  refine (Cluster.traces_place (ConfigFanout.reconcile base.metadata.key) _ kind place).simulate h
    fun act mem hplaced => ?_
  obtain ⟨phase, hdeed⟩ := hdeeds.exists_of_mem mem
  exact hns (hdeed.covers_of_placed hplaced).2.1

/-- Without faults, a round that succeeds for a source that stays and has a record of namespaces
goes through those that are stale up to the first one without an artifact of its kind and name. Of
the copies before that one only those of other sources are left; nothing after it is changed; the
tokens up to it are dropped; and the namespaces whose copies were taken away are reported in
order. -/
theorem a_round_clears_stale_namespaces_up_to_the_first_gap {cluster : Cluster}
    {source : ClusterConfig} {action : Action} (keyed : cluster.WellKeyed)
    (stored : cluster.sources[source.metadata.key]? = some source)
    (stays : source.isDeleting = false) (recorded : source.processed ≠ [])
    (ok : (Simulation.reconcile { cluster } source.metadata.key).1 = .ok action) :
    let target := NamespaceList.target source.spec.namespaceList cluster.namespaces
    let stale := NamespaceList.stale target.namespaces source.processed
    let gap := stale.findIdx fun ns =>
      !(cluster.artifacts source.spec.kind).contains (⟨ns, source.metadata.anyName⟩ : ObjectKey)
    let round := (Simulation.reconcile { cluster } source.metadata.key).2
    (∃ final, round.cluster.sources[source.metadata.key]? = some final ∧
      cluster.Trimmed source target gap round.cluster final) ∧
    ∃ report,
      (source.apply.run Simulation.store
        (Simulation.looked { cluster } source.metadata.key)).1 = .ok report ∧
      report.pruned = (stale.take gap).filter (fun ns =>
        !((cluster.artifacts source.spec.kind)[(⟨ns, source.metadata.anyName⟩ : ObjectKey)]?.any
          fun copy => (copy.otherOwner? source).isSome)) ∧
      round.events =
        if report.isEmpty then [] else [⟨source, .normal, "Synced", report.note⟩] := by
  intro target stale gap round
  have undisturbed := Simulation.undisturbed_without_rules cluster
  constructor
  · obtain ⟨hfeasible, hreaches⟩ := undisturbed.reconcile_ok Refusal.not_loses_never keyed stored
      rfl stays rfl ok
    obtain ⟨final, hfinal, -⟩ := hreaches.stays
    exact ⟨final, hfinal, hreaches.trimmed stored recorded hfeasible
      (undisturbed.unplaced keyed stored stays rfl) hfinal⟩
  · have found : (Simulation.answer (.getSource source.metadata.key) { cluster }).1 =
        .ok source := by
      rw [Simulation.answer_without_rules, Cluster.answer_getSource stored]
    obtain ⟨hreport, hevents⟩ := undisturbed.reports keyed found stays ok
    refine ⟨_, hreport, ?_, ?_⟩
    · obtain ⟨hlooked, hsame⟩ := undisturbed.looked source.metadata.key
      have hrecorded : (cluster.holdings source).processed ≠ [] := by
        rwa [Holdings.processed_holdings stored]
      have hstart : Cluster.Underway source cluster (cluster.holdings source) source
          (Simulation.looked { cluster } source.metadata.key).cluster := by
        rw [hsame]
        exact .start keyed stored rfl
      have htakes := (hstart.apply_takes stays Refusal.not_loses_never hrecorded rfl).simulate
        hlooked
      rw [htakes.1 _ _ (Prod.ext hreport rfl), Cluster.stale_holdings stored]
      exact Holdings.takings_holdings cluster stale
    · rw [ClusterConfig.news_of_report] at hevents
      exact hevents.trans (List.nil_append _)

/-- A source that goes to one namespace and was in four others, with tokens for these and for all
namespaces. -/
def ClusterConfig.gapped : ClusterConfig :=
  { ClusterConfig.trial "a" with
    metadata :=
      { name := some "app-config", ns := some "default",
        finalizers := some ["all", "b", "c", "d", "e"] }
    status := some ⟨["b", "c", "d", "e"]⟩ }

/-- A cluster with it, its copies in the first and the last of the four, and that of another source
in the second one. -/
def Cluster.gapped : Cluster :=
  (((({ namespaces := ["a", "b", "c", "d", "e"] } : Cluster).putSource
    ⟨"default", "app-config"⟩ .gapped).putArtifact
      (ClusterConfig.gapped.newCopy .configMap "app-config" "b")).putArtifact
      (({ ClusterConfig.gapped with metadata := { name := some "other" } } :
        ClusterConfig).newCopy .configMap "app-config" "c")).putArtifact
      (ClusterConfig.gapped.newCopy .configMap "app-config" "e")

/-- The round stops where there is no copy: the last one stays, and so do its token and that for
all namespaces. -/
theorem the_work_stops_where_there_is_no_copy :
    let round := (Simulation.reconcile { cluster := .gapped } ⟨"default", "app-config"⟩).2
    (round.cluster.artifacts .configMap)[(⟨"b", "app-config"⟩ : ObjectKey)]? = none ∧
      (round.cluster.artifacts .configMap)[(⟨"e", "app-config"⟩ : ObjectKey)]? =
        (Cluster.gapped.artifacts .configMap)[(⟨"e", "app-config"⟩ : ObjectKey)]? ∧
      ∃ final, round.cluster.sources[(⟨"default", "app-config"⟩ : ObjectKey)]? = some final ∧
        "d" ∉ final.metadata.held ∧ "e" ∈ final.metadata.held ∧
          everyToken ∈ final.metadata.held := by
  have keyed : Cluster.gapped.WellKeyed :=
    ((((Cluster.keyed_empty _).putSource .gapped).putArtifact _).putArtifact _).putArtifact _
  obtain ⟨⟨final, hfinal, htrimmed⟩, -⟩ :=
    @a_round_clears_stale_namespaces_up_to_the_first_gap .gapped (.atVersion .gapped 1)
      .awaitChange keyed (by decide +kernel) rfl (by decide) (by decide +kernel)
  refine ⟨?_, ?_, final, hfinal, ?_, ?_, ?_⟩
  · obtain ⟨copy, hcopy, hleft⟩ := htrimmed.taken 0 "b" (by decide +kernel) (by decide +kernel)
    have hfound : (Cluster.gapped.artifacts .configMap)[(⟨"b", "app-config"⟩ : ObjectKey)]? =
        some ((ClusterConfig.gapped.newCopy .configMap "app-config" "b").atVersion 2) := by
      decide +kernel
    obtain rfl := Option.some.inj (hfound.symm.trans hcopy)
    exact hleft.trans (if_neg (by decide +kernel))
  · exact htrimmed.spared 3 ⟨"e", "app-config"⟩ (by decide +kernel) (by decide +kernel) .configMap
  · exact mt (htrimmed.dropped 2 "d" (by decide +kernel) (by decide +kernel)).mp
      (by decide +kernel)
  · exact (htrimmed.kept (by decide +kernel) 3 "e" (by decide +kernel) (by decide +kernel)).mpr
      (by decide +kernel)
  · refine Decidable.not_not.mp
      (mt (htrimmed.released (by decide +kernel) (by decide +kernel)).mp ?_)
    rintro (hunheld | hend | ⟨i, hle, hi⟩)
    · exact absurd hunheld (by decide +kernel)
    · exact absurd hend (by decide +kernel)
    · have hnone := List.mem_of_getElem? hi
      exact absurd hnone (by decide +kernel)

end ConfigFanout
