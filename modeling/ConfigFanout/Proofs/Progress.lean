import ConfigFanout.Proofs.Holdings

-- How the holdings of a source change in the course of a round: what each stretch of work
-- makes of them when it is done, and what there may be when the round is cut short.
namespace ConfigFanout

/-- What a list of namespaces stands for, where `live` are all that there are. -/
def NamespaceList.target (raw : String) (live : List String) : TargetSet :=
  if isEvery (parse raw) then { namespaces := sortTexts live, all := true }
  else { namespaces := parse raw, all := false }

namespace NamespaceList

variable {raw ns token : String} {live : List String}

theorem target_of_explicit (h : isEvery (parse raw) = false) (live : List String) :
    target raw live = ⟨parse raw, false⟩ := by
  rw [target, h, if_neg Bool.false_ne_true]

theorem parse_of_isEvery (h : isEvery (parse raw) = true) : parse raw = [everyNamespace] :=
  of_decide_eq_true h

/-- The token for all namespaces is the entry that stands for them. -/
theorem mem_parse_of_mem_tokens (mem : token ∈ (target raw live).tokens) : token ∈ parse raw := by
  cases hevery : isEvery (parse raw) with
  | true =>
    rw [target, parse_of_isEvery hevery] at mem
    rw [parse_of_isEvery hevery]
    exact mem
  | false =>
    rw [target_of_explicit hevery] at mem
    exact mem

theorem entry_of_mem_target (mem : ns ∈ (target raw live).namespaces) :
    ns ∈ parse raw ∨ everyNamespace ∈ parse raw := by
  cases hevery : isEvery (parse raw) with
  | true => exact .inr (by simp [parse_of_isEvery hevery])
  | false =>
    rw [target_of_explicit hevery] at mem
    exact .inl mem

end NamespaceList

/-- An induction in which the first text is taken out of the rest, however often it stands
there. -/
theorem eraseDups_induction {motive : List String → Prop} (nil : motive [])
    (cons : ∀ first rest, motive (rest.filter fun text => !text == first) →
      motive (first :: rest)) (texts : List String) : motive texts := by
  induction h : texts.length using Nat.strongRecOn generalizing texts with
  | _ n ih =>
    cases texts with
    | nil => exact nil
    | cons first rest =>
      have hle := List.length_filter_le (fun text => !text == first) rest
      rw [List.length_cons] at h
      exact cons first rest (ih _ (by omega) _ rfl)

theorem nodup_eraseDups (texts : List String) : texts.eraseDups.Nodup := by
  induction texts using eraseDups_induction with
  | nil => exact List.nodup_nil
  | cons first rest ih =>
    rw [List.eraseDups_cons, List.nodup_cons]
    refine ⟨?_, ih⟩
    rw [List.mem_eraseDups]
    simp

theorem NamespaceList.nodup_stale (target last : List String) : (stale target last).Nodup :=
  nodup_eraseDups _

namespace Holdings

variable {base : ClusterConfig} (holdings : Holdings base.spec.kind)

/-! ## What each stretch of work makes of the holdings -/

/-- Whether there is an artifact where a copy would be, whoever it belongs to. -/
def Occupied (ns : String) : Prop :=
  (holdings.copies ns).isSome

instance (ns : String) : Decidable (holdings.Occupied ns) :=
  inferInstanceAs (Decidable (_ = true))

/-- Without the copy in a namespace, unless it belongs to another source. -/
def withdraw (ns : String) : Holdings base.spec.kind :=
  holdings.withCopy ns ((holdings.copies ns).filter fun copy => (copy.otherOwner? base).isSome)

/-- Without the copies in some namespaces and the tokens of these. -/
def cleared (gone : List String) : Holdings base.spec.kind where
  tokens := holdings.tokens.filter fun token => token ∉ gone
  status := holdings.status
  copies ns :=
    if ns ∈ gone then (holdings.copies ns).filter fun copy => (copy.otherOwner? base).isSome
    else holdings.copies ns

/-- The namespaces that taking copies away gets to, in order. The first one without a copy
is the last of them. -/
def reach : List String → List String
  | [] => []
  | ns :: rest => if holdings.Occupied ns then ns :: reach rest else [ns]

/-- The namespaces that were targets before and are none now. -/
def stale (target : TargetSet) : List String :=
  NamespaceList.stale target.namespaces holdings.processed

/-- Without what is stale, as far as taking it away gets. -/
def pruned (target : TargetSet) : Holdings base.spec.kind :=
  holdings.cleared (holdings.reach (holdings.stale target))

/-- Whether the token for all namespaces is given back: by a source that has a record of
targets, for a list of single namespaces, if there was an artifact in every stale one. -/
def Releases (target : TargetSet) : Prop :=
  holdings.processed ≠ [] ∧ target.all = false ∧
    (∀ ns ∈ holdings.stale target, holdings.Occupied ns) ∧ everyToken ∉ target.namespaces

instance (target : TargetSet) : Decidable (holdings.Releases target) :=
  inferInstanceAs (Decidable (_ ∧ _ ∧ _ ∧ _))

/-- Without what is stale and, where it is given back, the token for all namespaces. -/
def released (target : TargetSet) : Holdings base.spec.kind :=
  if holdings.Releases target then (holdings.pruned target).drop everyToken
  else holdings.pruned target

/-- What the work on stale namespaces makes of the holdings. -/
def retired (target : TargetSet) : Holdings base.spec.kind :=
  if holdings.processed.isEmpty then holdings
  else (holdings.released target).record target.namespaces

def missing (tokens : List String) : List String :=
  (tokens.filter fun token => !holdings.tokens.contains token).eraseDups

/-- With the tokens of a target. -/
def guarded (target : TargetSet) : Holdings base.spec.kind :=
  (holdings.missing target.tokens).foldl add holdings

/-- With up-to-date copies in some namespaces. -/
def brought (namespaces : List String) : Holdings base.spec.kind :=
  namespaces.foldl bring holdings

def ofNamespace (token : String) : Bool :=
  token ≠ everyToken && !isForeignFinalizer token

/-- Without the tokens of single namespaces, if the target is all namespaces. -/
def settled (target : TargetSet) : Holdings base.spec.kind :=
  if target.all then (holdings.tokens.filter ofNamespace).foldl drop holdings else holdings

/-- What the rest of a round makes of the holdings, once nothing is stale. -/
def finished (target : TargetSet) : Holdings base.spec.kind :=
  (((holdings.guarded target).brought target.namespaces).settled target).record
    target.namespaces

/-! ## Where a round can be cut short -/

/-- What the holdings may be when taking copies away is cut short. -/
inductive Clearing (list : List String) (holdings : Holdings base.spec.kind) :
    Holdings base.spec.kind → Prop
  /-- Before a copy is taken away. -/
  | before {gone rest : List String} : gone ++ rest = list →
    (∀ ns ∈ gone, holdings.Occupied ns) → Clearing list holdings (holdings.cleared gone)
  /-- Between a copy and its token. -/
  | between {gone rest : List String} {ns : String} : gone ++ ns :: rest = list →
    (∀ ns ∈ gone, holdings.Occupied ns) →
    Clearing list holdings ((holdings.cleared gone).withdraw ns)

/-- What the holdings may be when a round is cut short. -/
inductive Interrupted (target : TargetSet) (live : List String)
    (holdings : Holdings base.spec.kind) : Holdings base.spec.kind → Prop
  /-- While stale copies are taken away. -/
  | clearing {next : Holdings base.spec.kind} : holdings.Clearing (holdings.stale target) next →
    Interrupted target live holdings next
  /-- Before the token for all namespaces is given back. -/
  | releasing : holdings.Releases target →
    Interrupted target live holdings (holdings.pruned target)
  /-- Before the status says that nothing is stale. -/
  | retiring : holdings.processed ≠ [] → Interrupted target live holdings (holdings.released target)
  /-- Before a token is added. -/
  | guarding {done rest : List String} :
    done ++ rest = (holdings.retired target).missing target.tokens →
    Interrupted target live holdings (done.foldl add (holdings.retired target))
  /-- Before a copy is up to date. -/
  | bringing {done rest : List String} : done ++ rest = target.namespaces →
    (∀ ns ∈ done, holdings.MayBring live ns) →
    Interrupted target live holdings (((holdings.retired target).guarded target).brought done)
  /-- Before a token of a single namespace is dropped that is needed no more. -/
  | settling {done rest : List String} : target.all = true →
    (∀ ns ∈ target.namespaces, holdings.MayBring live ns) →
    done ++ rest =
      (((holdings.retired target).guarded target).brought target.namespaces).tokens.filter
        ofNamespace →
    Interrupted target live holdings
      (done.foldl drop (((holdings.retired target).guarded target).brought target.namespaces))
  /-- Before the status says that all is done. -/
  | recording : (∀ ns ∈ target.namespaces, holdings.MayBring live ns) →
    Interrupted target live holdings
      ((((holdings.retired target).guarded target).brought target.namespaces).settled target)

/-- Whether a round can succeed where no call is refused. -/
structure Feasible (holdings : Holdings base.spec.kind) (target : TargetSet)
    (live : List String) : Prop where
  named : holdings.stale target ≠ [] → base.Named
  bring : ∀ ns ∈ target.namespaces, holdings.MayBring live ns

/-! ## Taking copies away -/

variable {holdings}

theorem occupied_iff {ns : String} : holdings.Occupied ns ↔ holdings.copies ns ≠ none := by
  unfold Occupied
  rw [ne_eq, Option.isSome_iff_ne_none]

theorem occupied_holdings {cluster : Cluster} {ns : String} :
    (cluster.holdings base).Occupied ns ↔
      (cluster.artifacts base.spec.kind).contains
        (⟨ns, base.metadata.anyName⟩ : ObjectKey) = true := by
  rw [Std.ExtTreeMap.contains_eq_isSome_getElem?, Occupied, Cluster.copies_holdings,
    Option.isSome_map]

theorem processed_holdings {cluster : Cluster} {source : ClusterConfig}
    (stored : cluster.sources[base.metadata.key]? = some source) :
    (cluster.holdings base).processed = source.processed := by
  unfold processed ClusterConfig.processed
  rw [Cluster.status_holdings stored]

theorem stale_congr {other : Holdings base.spec.kind} (h : other.status = holdings.status)
    (target : TargetSet) : other.stale target = holdings.stale target := by
  unfold stale
  rw [processed_congr h]

@[simp] theorem mem_tokens_cleared {gone : List String} {token : String} :
    token ∈ (holdings.cleared gone).tokens ↔ token ∈ holdings.tokens ∧ token ∉ gone := by
  simp [cleared]

theorem copies_cleared (gone : List String) (ns : String) :
    (holdings.cleared gone).copies ns =
      if ns ∈ gone then (holdings.copies ns).filter fun copy => (copy.otherOwner? base).isSome
      else holdings.copies ns := rfl

@[simp] theorem tokens_withdraw (ns : String) :
    (holdings.withdraw ns).tokens = holdings.tokens := rfl

theorem copies_withdraw (ns other : String) :
    (holdings.withdraw ns).copies other =
      if other = ns then (holdings.copies ns).filter fun copy => (copy.otherOwner? base).isSome
      else holdings.copies other := rfl

@[simp] theorem cleared_nil : holdings.cleared [] = holdings := by
  apply Holdings.ext
  · simp [cleared]
  · rfl
  · funext ns
    simp [copies_cleared]

theorem cleared_cons (ns : String) (gone : List String) :
    ((holdings.withdraw ns).drop ns).cleared gone = holdings.cleared (ns :: gone) := by
  apply Holdings.ext
  · simp only [cleared, drop, tokens_withdraw, List.filter_filter, List.mem_cons, not_or]
    congr 1
    funext token
    simp [Bool.and_comm]
  · rfl
  · funext other
    simp only [copies_cleared, copies_drop, copies_withdraw, List.mem_cons]
    by_cases hns : other = ns
    · subst hns
      simp only [if_true, true_or]
      split
      · rw [Option.filter_filter]
        simp
      · rfl
    · simp only [hns, if_false, false_or]

theorem reach_congr {other : Holdings base.spec.kind} {list : List String}
    (h : ∀ ns ∈ list, holdings.Occupied ns ↔ other.Occupied ns) :
    holdings.reach list = other.reach list := by
  induction list with
  | nil => rfl
  | cons ns rest ih =>
    rw [reach, reach, ih fun ns mem => h ns (List.mem_cons_of_mem _ mem)]
    by_cases hns : holdings.Occupied ns
    · rw [if_pos hns, if_pos ((h ns List.mem_cons_self).mp hns)]
    · rw [if_neg hns, if_neg fun hother => hns ((h ns List.mem_cons_self).mpr hother)]

theorem reach_of_occupied {list : List String} (h : ∀ ns ∈ list, holdings.Occupied ns) :
    holdings.reach list = list := by
  induction list with
  | nil => rfl
  | cons ns rest ih =>
    rw [reach, if_pos (h ns List.mem_cons_self), ih fun ns mem => h ns (List.mem_cons_of_mem _ mem)]

theorem mem_of_mem_reach {list : List String} {ns : String} (h : ns ∈ holdings.reach list) :
    ns ∈ list := by
  induction list with
  | nil => exact h
  | cons first rest ih =>
    rw [reach] at h
    split at h
    · rcases List.mem_cons.mp h with rfl | h
      · exact List.mem_cons_self
      · exact List.mem_cons_of_mem _ (ih h)
    · rw [List.mem_singleton.mp h]
      exact List.mem_cons_self

/-- Of the namespaces with an artifact, those are reached that only such ones come before. -/
theorem mem_reach_of_occupied {list : List String} {ns : String} (h : holdings.Occupied ns) :
    ns ∈ holdings.reach list ↔ ns ∈ list.takeWhile fun ns => holdings.Occupied ns := by
  induction list with
  | nil => exact Iff.rfl
  | cons first rest ih =>
    rw [reach, List.takeWhile_cons]
    by_cases hfirst : holdings.Occupied first
    · rw [if_pos hfirst, if_pos (decide_eq_true hfirst), List.mem_cons, List.mem_cons, ih]
    · rw [if_neg hfirst, if_neg (by simpa using hfirst), List.mem_singleton]
      refine ⟨fun heq => absurd (heq ▸ h) hfirst, fun mem => ?_⟩
      cases mem

/-- What is reached where fewer namespaces are occupied is reached where more are. -/
theorem reach_subset {other : Holdings base.spec.kind} {list : List String}
    (h : ∀ ns ∈ list, other.Occupied ns → holdings.Occupied ns) {ns : String}
    (mem : ns ∈ other.reach list) : ns ∈ holdings.reach list := by
  induction list with
  | nil => exact mem
  | cons first rest ih =>
    rw [reach] at mem ⊢
    by_cases hother : other.Occupied first
    · rw [if_pos hother] at mem
      rw [if_pos (h first List.mem_cons_self hother), List.mem_cons]
      exact (List.mem_cons.mp mem).imp_right
        (ih fun ns hns => h ns (List.mem_cons_of_mem _ hns))
    · rw [if_neg hother, List.mem_singleton] at mem
      rw [mem]
      split
      · exact List.mem_cons_self
      · exact List.mem_singleton_self _

/-- A stretch of occupied namespaces is reached whole, and the next one with it. -/
theorem mem_reach_of_append {gone rest : List String} (h : ∀ ns ∈ gone, holdings.Occupied ns)
    {ns : String} (mem : ns ∈ gone ∨ ns ∈ rest.take 1) :
    ns ∈ holdings.reach (gone ++ rest) := by
  induction gone with
  | nil =>
    cases rest with
    | nil => simp at mem
    | cons first rest =>
      obtain rfl : ns = first := by simpa using mem
      rw [List.nil_append, reach]
      split
      · exact List.mem_cons_self
      · exact List.mem_singleton_self _
  | cons first gone ih =>
    rw [List.cons_append, reach, if_pos (h first List.mem_cons_self), List.mem_cons]
    rcases mem with mem | mem
    · exact (List.mem_cons.mp mem).imp_right fun later =>
        ih (fun ns hns => h ns (List.mem_cons_of_mem _ hns)) (.inl later)
    · exact .inr (ih (fun ns hns => h ns (List.mem_cons_of_mem _ hns)) (.inr mem))

theorem occupied_withdraw_drop {ns other : String} (h : other ≠ ns) :
    ((holdings.withdraw ns).drop ns).Occupied other ↔ holdings.Occupied other := by
  unfold Occupied
  rw [copies_drop, copies_withdraw, if_neg h]

/-- Taking copies away from a list of namespaces leads to some holdings, and does or does not
find a copy everywhere. -/
structure Prunes (holdings : Holdings base.spec.kind) (list : List String)
    (next : Holdings base.spec.kind) (complete : Bool) : Prop where
  next_eq : next = holdings.cleared (holdings.reach list)
  complete_iff : complete = true ↔ ∀ ns ∈ list, holdings.Occupied ns

theorem Prunes.nil : holdings.Prunes [] holdings true :=
  ⟨by rw [reach, cleared_nil], by simp⟩

theorem Prunes.stop {ns : String} (rest : List String) (h : ¬ holdings.Occupied ns) :
    holdings.Prunes (ns :: rest) ((holdings.withdraw ns).drop ns) false where
  next_eq := by rw [reach, if_neg h, ← cleared_cons, cleared_nil]
  complete_iff := by simp [h]

theorem Prunes.cons {ns : String} {rest : List String} {next : Holdings base.spec.kind}
    {complete : Bool} (hns : holdings.Occupied ns) (fresh : ns ∉ rest)
    (h : ((holdings.withdraw ns).drop ns).Prunes rest next complete) :
    holdings.Prunes (ns :: rest) next complete := by
  have hsame : ∀ other ∈ rest,
      (((holdings.withdraw ns).drop ns).Occupied other ↔ holdings.Occupied other) := by
    intro other mem
    refine occupied_withdraw_drop ?_
    rintro rfl
    exact fresh mem
  constructor
  · rw [h.next_eq, cleared_cons, reach, if_pos hns, reach_congr hsame]
  · rw [h.complete_iff, List.forall_mem_cons]
    constructor
    · exact fun hall => ⟨hns, fun other mem => (hsame other mem).mp (hall other mem)⟩
    · exact fun hall other mem => (hsame other mem).mpr (hall.2 other mem)

/-- Whether the token for all namespaces is given back is decided by what taking the stale
copies away has found. -/
theorem Prunes.releases_iff {target : TargetSet} {next : Holdings base.spec.kind}
    {complete : Bool} (h : holdings.Prunes (holdings.stale target) next complete)
    (hbefore : holdings.processed ≠ []) :
    (!target.all && complete && !target.namespaces.contains everyToken) = true ↔
      holdings.Releases target := by
  unfold Releases
  rw [Bool.and_eq_true, Bool.and_eq_true, h.complete_iff, and_assoc]
  simp [hbefore]

/-- What is cut short after the first copy was taken away is cut short later. -/
theorem Clearing.cons {ns : String} {rest : List String} {next : Holdings base.spec.kind}
    (hns : holdings.Occupied ns) (fresh : ns ∉ rest)
    (h : ((holdings.withdraw ns).drop ns).Clearing rest next) :
    holdings.Clearing (ns :: rest) next := by
  have hoccupied : ∀ {gone others : List String}, gone ++ others = rest →
      (∀ other ∈ gone, ((holdings.withdraw ns).drop ns).Occupied other) →
      ∀ other ∈ ns :: gone, holdings.Occupied other := by
    rintro gone others rfl hgone other mem
    rcases List.mem_cons.mp mem with rfl | later
    · exact hns
    · refine (occupied_withdraw_drop ?_).mp (hgone other later)
      rintro rfl
      exact fresh (List.mem_append_left _ later)
  cases h with
  | before heq hgone =>
    rw [cleared_cons]
    exact .before (by rw [List.cons_append, heq]) (hoccupied heq hgone)
  | between heq hgone =>
    rw [cleared_cons]
    exact .between (by rw [List.cons_append, heq]) (hoccupied heq hgone)

theorem Clearing.start (list : List String) : holdings.Clearing list holdings := by
  have h : holdings.Clearing list (holdings.cleared []) :=
    .before (List.nil_append list) (by simp)
  rwa [cleared_nil] at h

theorem Clearing.first (ns : String) (rest : List String) :
    holdings.Clearing (ns :: rest) (holdings.withdraw ns) := by
  have h : holdings.Clearing (ns :: rest) ((holdings.cleared []).withdraw ns) :=
    .between (List.nil_append (ns :: rest)) (by simp)
  rwa [cleared_nil] at h

theorem Withdrawn.eq_withdraw {lossy : Prop} {ns : String} {removal : Removal}
    {next : Holdings base.spec.kind} (h : holdings.Withdrawn lossy ns removal next)
    (hkeeps : ¬ lossy) :
    next = holdings.withdraw ns ∧ (removal = .alreadyAbsent ↔ ¬ holdings.Occupied ns) := by
  unfold withdraw Occupied
  cases h with
  | absent hnone =>
    have hnone := hnone.resolve_right hkeeps
    simp [hnone, holdings.withCopy_self hnone]
  | foreign hcopy hother =>
    rw [hcopy, Option.filter_some, if_pos hother, holdings.withCopy_self hcopy]
    simp
  | deleted hcopy hown =>
    rw [hcopy, Option.filter_some, if_neg (by simp [hown])]
    simp

/-! ## Bringing copies up to date -/

/-- A copy that is up to date names its source and carries its data. -/
theorem upToDate_carries (ns : String) {copy : Option (Artifact base.spec.kind)}
    (hown : ∀ old, copy = some old → old.otherOwner? base = none) :
    (base.upToDate ns copy).owner? = some base.metadata.key ∧
      (base.upToDate ns copy).payload = base.spec.kind.payload base := by
  cases copy with
  | none => exact ⟨Artifact.owner?_of_ownerLabels _ rfl, rfl⟩
  | some old =>
    have hold := hown old rfl
    unfold ClusterConfig.upToDate ClusterConfig.revise
    dsimp only
    by_cases howner : old.owner?.isNone
    · rw [if_pos howner]
      exact ⟨Artifact.owner?_of_ownerLabels _ rfl, rfl⟩
    · rw [if_neg howner]
      have hmine : old.owner? = some base.metadata.key :=
        (old.otherOwner?_eq_none.mp hold).resolve_left fun hnone => howner (by rw [hnone]; rfl)
      by_cases hsame : old.payload = base.spec.kind.payload base
      · rw [if_pos hsame]
        exact ⟨hmine, hsame⟩
      · rw [if_neg hsame]
        exact ⟨hmine, rfl⟩

theorem upToDate_own (ns : String) {copy : Option (Artifact base.spec.kind)}
    (hown : ∀ old, copy = some old → old.otherOwner? base = none) :
    (base.upToDate ns copy).otherOwner? base = none :=
  Artifact.otherOwner?_eq_none _ |>.mpr (.inr (upToDate_carries ns hown).1)

theorem upToDate_upToDate (ns : String) {copy : Option (Artifact base.spec.kind)}
    (hown : ∀ old, copy = some old → old.otherOwner? base = none) :
    base.upToDate ns (some (base.upToDate ns copy)) = base.upToDate ns copy := by
  obtain ⟨howner, hpayload⟩ := upToDate_carries ns hown
  have hrevise : base.revise (base.upToDate ns copy) = none := by
    unfold ClusterConfig.revise
    rw [howner, hpayload]
    simp
  show (base.revise (base.upToDate ns copy)).getD _ = _
  rw [hrevise]
  rfl

theorem MayBring.of_copies {live : List String} {other : Holdings base.spec.kind} {ns : String}
    (h : holdings.MayBring live ns) (heq : other.copies ns = holdings.copies ns) :
    other.MayBring live ns :=
  ⟨h.named, by rw [heq]; exact h.live, by rw [heq]; exact h.own⟩

theorem mayBring_bring {live : List String} {ns other : String}
    (h : holdings.MayBring live ns) :
    (holdings.bring ns).MayBring live other ↔ holdings.MayBring live other := by
  by_cases hns : other = ns
  · subst hns
    refine ⟨fun _ => h, fun _ => ⟨h.named, fun hnone => ?_, fun copy hcopy => ?_⟩⟩
    · rw [bring, copies_withCopy, if_pos rfl] at hnone
      cases hnone
    · rw [bring, copies_withCopy, if_pos rfl] at hcopy
      rw [← Option.some.inj hcopy]
      exact upToDate_own _ h.own
  · have hsame : (holdings.bring ns).copies other = holdings.copies other := by
      rw [bring, copies_withCopy, if_neg hns]
    exact ⟨fun hmay => hmay.of_copies hsame.symm, fun hmay => hmay.of_copies hsame⟩

@[simp] theorem tokens_brought (namespaces : List String) :
    (holdings.brought namespaces).tokens = holdings.tokens := by
  induction namespaces generalizing holdings with
  | nil => rfl
  | cons ns rest ih => exact ih

@[simp] theorem status_brought (namespaces : List String) :
    (holdings.brought namespaces).status = holdings.status := by
  induction namespaces generalizing holdings with
  | nil => rfl
  | cons ns rest ih => exact ih

theorem copies_brought_of_not_mem {namespaces : List String} {ns : String}
    (h : ns ∉ namespaces) : (holdings.brought namespaces).copies ns = holdings.copies ns := by
  induction namespaces generalizing holdings with
  | nil => rfl
  | cons first rest ih =>
    obtain ⟨hfirst, hrest⟩ := not_or.mp (mt List.mem_cons.mpr h)
    rw [brought, List.foldl_cons, ← brought, ih hrest, bring, copies_withCopy, if_neg hfirst]

/-- Each copy is brought up to date once, also where its namespace is named more often. -/
theorem copies_brought {live namespaces : List String}
    (h : ∀ ns ∈ namespaces, holdings.MayBring live ns) (ns : String) :
    (holdings.brought namespaces).copies ns =
      if ns ∈ namespaces then some (base.upToDate ns (holdings.copies ns))
      else holdings.copies ns := by
  induction namespaces generalizing holdings with
  | nil => rw [if_neg List.not_mem_nil]; rfl
  | cons first rest ih =>
    have hfirst := h first List.mem_cons_self
    have hrest : ((holdings.bring first).brought rest).copies ns = _ := ih fun ns mem =>
      (mayBring_bring hfirst).mpr (h ns (List.mem_cons_of_mem _ mem))
    rw [brought, List.foldl_cons, ← brought, hrest]
    by_cases hns : ns = first
    · subst hns
      rw [bring, copies_withCopy, if_pos rfl, if_pos List.mem_cons_self,
        upToDate_upToDate ns hfirst.own, ite_self]
    · rw [bring, copies_withCopy, if_neg hns]
      simp only [List.mem_cons, hns, false_or]

/-! ## Stretches of work one after the other -/

theorem not_mem_stale {target : TargetSet} {ns : String} (h : ns ∈ target.namespaces) :
    ns ∉ holdings.stale target :=
  fun mem => (NamespaceList.mem_stale.mp mem).2 h

@[simp] theorem copies_released (target : TargetSet) :
    (holdings.released target).copies = (holdings.pruned target).copies := by
  unfold released
  split <;> rfl

theorem stale_of_first {target : TargetSet} (h : holdings.processed = []) :
    holdings.stale target = [] := by
  unfold stale
  rw [h]
  rfl

theorem copies_retired_eq (target : TargetSet) :
    (holdings.retired target).copies = (holdings.pruned target).copies := by
  unfold retired
  split
  · next hfirst =>
    rw [pruned, stale_of_first (List.isEmpty_iff.mp hfirst), reach, cleared_nil]
  · rw [copies_record, copies_released]

theorem status_retired (target : TargetSet) :
    (holdings.retired target).status = holdings.status ∨
      (holdings.retired target).status = some ⟨target.namespaces⟩ := by
  unfold retired
  split
  · exact .inl rfl
  · exact .inr rfl

/-- Copies where the source goes are not stale. -/
theorem copies_retired {target : TargetSet} {ns : String} (h : ns ∈ target.namespaces) :
    (holdings.retired target).copies ns = holdings.copies ns := by
  rw [copies_retired_eq, pruned, copies_cleared,
    if_neg fun mem => not_mem_stale h (mem_of_mem_reach mem)]

theorem copies_foldl_add (tokens : List String) :
    (tokens.foldl add holdings).copies = holdings.copies := by
  induction tokens generalizing holdings with
  | nil => rfl
  | cons token rest ih => exact ih

theorem status_foldl_add (tokens : List String) :
    (tokens.foldl add holdings).status = holdings.status := by
  induction tokens generalizing holdings with
  | nil => rfl
  | cons token rest ih => exact ih

theorem status_guarded (target : TargetSet) :
    (holdings.guarded target).status = holdings.status :=
  status_foldl_add _

theorem copies_guarded (target : TargetSet) :
    (holdings.guarded target).copies = holdings.copies :=
  copies_foldl_add _

theorem mayBring_guarded {target : TargetSet} {live : List String} {ns : String} :
    (holdings.guarded target).MayBring live ns ↔ holdings.MayBring live ns := by
  have hsame : (holdings.guarded target).copies ns = holdings.copies ns := by
    rw [copies_guarded]
  exact ⟨fun h => h.of_copies hsame.symm, fun h => h.of_copies hsame⟩

theorem mayBring_retired {target : TargetSet} {live : List String} {ns : String}
    (h : ns ∈ target.namespaces) :
    (holdings.retired target).MayBring live ns ↔ holdings.MayBring live ns :=
  ⟨fun hmay => hmay.of_copies (copies_retired h).symm,
    fun hmay => hmay.of_copies (copies_retired h)⟩

/-! ## Tokens at the end of a round -/

theorem mem_tokens_foldl_add {tokens : List String} {token : String} :
    token ∈ (tokens.foldl add holdings).tokens ↔ token ∈ holdings.tokens ∨ token ∈ tokens := by
  induction tokens generalizing holdings with
  | nil => simp
  | cons first rest ih =>
    rw [List.foldl_cons, ih, mem_tokens_add, List.mem_cons, or_assoc]

theorem mem_tokens_foldl_drop {tokens : List String} {token : String} :
    token ∈ (tokens.foldl drop holdings).tokens ↔ token ∈ holdings.tokens ∧ token ∉ tokens := by
  induction tokens generalizing holdings with
  | nil => simp
  | cons first rest ih =>
    rw [List.foldl_cons, ih, mem_tokens_drop, List.mem_cons, not_or, and_assoc]

/-- The work on stale namespaces drops the tokens of those that it reaches, and the one for all
namespaces if it gives that back. -/
theorem mem_tokens_released {target : TargetSet} {token : String} :
    token ∈ (holdings.released target).tokens ↔
      token ∈ holdings.tokens ∧ token ∉ holdings.reach (holdings.stale target) ∧
        ¬ (token = everyToken ∧ holdings.Releases target) := by
  unfold released
  by_cases hreleases : holdings.Releases target
  · rw [if_pos hreleases, mem_tokens_drop, pruned, mem_tokens_cleared]
    simp [hreleases, and_assoc]
  · rw [if_neg hreleases, pruned, mem_tokens_cleared]
    simp [hreleases]

theorem mem_tokens_retired {target : TargetSet} {token : String} :
    token ∈ (holdings.retired target).tokens ↔
      token ∈ holdings.tokens ∧ token ∉ holdings.reach (holdings.stale target) ∧
        ¬ (token = everyToken ∧ holdings.Releases target) := by
  unfold retired
  by_cases hfirst : holdings.processed.isEmpty
  · have hnone := List.isEmpty_iff.mp hfirst
    have hnot : ¬ holdings.Releases target := fun hreleases => hreleases.1 hnone
    rw [if_pos hfirst, stale_of_first hnone]
    simp [hnot, reach]
  · rw [if_neg hfirst, tokens_record, mem_tokens_released]

theorem mem_missing {tokens : List String} {token : String} :
    token ∈ holdings.missing tokens ↔ token ∈ tokens ∧ token ∉ holdings.tokens := by
  simp [missing]

theorem mem_tokens_guarded {target : TargetSet} {token : String} :
    token ∈ (holdings.guarded target).tokens ↔
      token ∈ holdings.tokens ∨ token ∈ target.tokens := by
  rw [guarded, mem_tokens_foldl_add, mem_missing]
  by_cases hheld : token ∈ holdings.tokens <;> simp [hheld]

theorem mem_tokens_settled {target : TargetSet} {token : String} :
    token ∈ (holdings.settled target).tokens ↔
      token ∈ holdings.tokens ∧ ¬ (target.all = true ∧ ofNamespace token = true) := by
  unfold settled
  by_cases hall : target.all
  · rw [if_pos hall, mem_tokens_foldl_drop, List.mem_filter]
    simp only [hall, true_and, not_and, and_congr_right_iff]
    exact fun hheld => ⟨fun h => h hheld, fun h _ => h⟩
  · simp [hall]

/-- At the end of a round the source holds the tokens of the target, and what it held before,
but no tokens of single namespaces if the target is all of them. -/
theorem mem_tokens_finished {target : TargetSet} {token : String} :
    token ∈ (holdings.finished target).tokens ↔
      (token ∈ holdings.tokens ∨ token ∈ target.tokens) ∧
        ¬ (target.all = true ∧ ofNamespace token = true) := by
  rw [finished, tokens_record, mem_tokens_settled, tokens_brought, mem_tokens_guarded]

/-- The tokens of a target are not among those that go when the target is all namespaces. -/
theorem keeps_of_mem_tokens {target : TargetSet} {token : String} (h : token ∈ target.tokens) :
    ¬ (target.all = true ∧ ofNamespace token = true) := by
  rintro ⟨hall, hnamespace⟩
  rw [TargetSet.tokens, if_pos hall, List.mem_singleton] at h
  rw [h] at hnamespace
  exact absurd hnamespace (by decide)

/-- A round that is cut short has put up no other tokens than those of the target. -/
theorem Interrupted.of_mem_tokens {target : TargetSet} {live : List String}
    {next : Holdings base.spec.kind} (h : holdings.Interrupted target live next) {token : String}
    (mem : token ∈ next.tokens) : token ∈ holdings.tokens ∨ token ∈ target.tokens := by
  have hretired : token ∈ (holdings.retired target).tokens → token ∈ holdings.tokens :=
    fun mem => (mem_tokens_retired.mp mem).1
  have hguarded : token ∈ ((holdings.retired target).guarded target).tokens →
      token ∈ holdings.tokens ∨ token ∈ target.tokens :=
    fun mem => (mem_tokens_guarded.mp mem).imp_left hretired
  cases h with
  | clearing hclearing =>
    cases hclearing with
    | before => exact .inl (mem_tokens_cleared.mp mem).1
    | between => exact .inl (mem_tokens_cleared.mp mem).1
  | releasing => exact .inl (mem_tokens_cleared.mp mem).1
  | retiring => exact .inl (mem_tokens_released.mp mem).1
  | guarding heq =>
    refine (mem_tokens_foldl_add.mp mem).imp hretired fun added => ?_
    exact (mem_missing.mp (heq ▸ List.mem_append_left _ added)).1
  | bringing =>
    rw [tokens_brought] at mem
    exact hguarded mem
  | settling =>
    have hleft := (mem_tokens_foldl_drop.mp mem).1
    rw [tokens_brought] at hleft
    exact hguarded hleft
  | recording =>
    have hleft := (mem_tokens_settled.mp mem).1
    rw [tokens_brought] at hleft
    exact hguarded hleft

theorem status_finished (target : TargetSet) :
    (holdings.finished target).status = some ⟨target.namespaces⟩ := rfl

theorem copies_foldl_drop (tokens : List String) :
    (tokens.foldl drop holdings).copies = holdings.copies := by
  induction tokens generalizing holdings with
  | nil => rfl
  | cons token rest ih => exact ih

theorem status_foldl_drop (tokens : List String) :
    (tokens.foldl drop holdings).status = holdings.status := by
  induction tokens generalizing holdings with
  | nil => rfl
  | cons token rest ih => exact ih

theorem status_settled (target : TargetSet) :
    (holdings.settled target).status = holdings.status := by
  unfold settled
  split
  · exact status_foldl_drop _
  · rfl

theorem copies_settled (target : TargetSet) :
    (holdings.settled target).copies = holdings.copies := by
  unfold settled
  split
  · exact copies_foldl_drop _
  · rfl

/-- At the end of a round the copies where the source goes are up to date. -/
theorem copies_finished {target : TargetSet} {live : List String}
    (h : ∀ ns ∈ target.namespaces, holdings.MayBring live ns) (ns : String) :
    (holdings.finished target).copies ns =
      if ns ∈ target.namespaces then some (base.upToDate ns (holdings.copies ns))
      else holdings.copies ns := by
  rw [finished, copies_record, copies_settled,
    copies_brought fun ns mem => mayBring_guarded.mpr (h ns mem), copies_guarded]

end Holdings

/-! ## Copies in a cluster -/

/-- The copy of a source in a namespace carries its data and names it. -/
def Cluster.UpToDate (cluster : Cluster) (source : ClusterConfig) (ns : String) : Prop :=
  ∃ artifact : Artifact source.spec.kind,
    (cluster.artifacts source.spec.kind)[(⟨ns, source.metadata.anyName⟩ : ObjectKey)]? =
      some artifact ∧
    artifact.payload = source.spec.kind.payload source ∧
    artifact.owner? = some source.metadata.key

theorem Cluster.upToDate_of_copies {cluster : Cluster} {base : ClusterConfig} {ns : String}
    {copy : Option (Artifact base.spec.kind)}
    (hcopy : (cluster.holdings base).copies ns = some (base.upToDate ns copy))
    (hown : ∀ old, copy = some old → old.otherOwner? base = none) : cluster.UpToDate base ns := by
  obtain ⟨artifact, found, hsame⟩ := exists_of_copies hcopy
  obtain ⟨howner, hpayload⟩ := Holdings.upToDate_carries ns hown
  rw [← hsame] at howner hpayload
  exact ⟨artifact, found, hpayload, howner⟩

end ConfigFanout
