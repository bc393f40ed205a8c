import ConfigFanout.Proofs.Runs

-- A round that failed, and one after it that does not: how far the two together come to what
-- one round comes to that never failed.
namespace ConfigFanout

namespace Holdings

variable {base : ClusterConfig} {start left : Holdings base.spec.kind} {target : TargetSet}
  {live : List String}

/-- Whether the target alone decides if a token is held in the end: one of its own is, and one
of a single namespace is not if the target is all of them. -/
def Decides (target : TargetSet) (token : String) : Prop :=
  token ∈ target.tokens ∨ target.all = true ∧ ofNamespace token = true

/-- What is left of a copy that is to be taken away: nothing, unless it belongs to another
source. -/
def remainder (copy : Option (Artifact base.spec.kind)) : Option (Artifact base.spec.kind) :=
  copy.filter fun copy => (copy.otherOwner? base).isSome

theorem remainder_remainder (copy : Option (Artifact base.spec.kind)) :
    remainder (remainder copy) = remainder copy := by
  simp [remainder, Option.filter_filter]

/-- What a single round makes of the holdings. -/
def once (start : Holdings base.spec.kind) (target : TargetSet) : Holdings base.spec.kind :=
  (start.retired target).finished target

theorem mem_tokens_once {token : String} (h : ¬ Decides target token) :
    token ∈ (start.once target).tokens ↔
      token ∈ start.tokens ∧ token ∉ start.reach (start.stale target) ∧
        ¬ (token = everyToken ∧ start.Releases target) := by
  obtain ⟨hown, hgoes⟩ := not_or.mp h
  rw [once, mem_tokens_finished, mem_tokens_retired]
  simp [hown, hgoes]

theorem mem_tokens_once_of_decides {other : Holdings base.spec.kind} {token : String}
    (h : Decides target token) :
    token ∈ (start.once target).tokens ↔ token ∈ (other.once target).tokens := by
  rw [once, once, mem_tokens_finished, mem_tokens_finished]
  rcases h with hown | hgoes
  · simp [hown]
  · simp [hgoes]

theorem copies_once (h : start.Feasible target live) (ns : String) :
    (start.once target).copies ns =
      if ns ∈ target.namespaces then some (base.upToDate ns (start.copies ns))
      else if ns ∈ start.reach (start.stale target) then remainder (start.copies ns)
      else start.copies ns := by
  rw [once, copies_finished fun ns mem => (mayBring_retired mem).mpr (h.bring ns mem)]
  by_cases mem : ns ∈ target.namespaces
  · rw [if_pos mem, if_pos mem, copies_retired mem]
  · rw [if_neg mem, if_neg mem, copies_retired_eq]
    rfl

/-- What a round has made of the holdings, however far it got. -/
structure Partway (start : Holdings base.spec.kind) (target : TargetSet)
    (left : Holdings base.spec.kind) : Prop where
  status : left.status = start.status ∨ left.status = some ⟨target.namespaces⟩
  inside : ∀ ns ∈ target.namespaces, left.copies ns = start.copies ns ∨
    left.copies ns = some (base.upToDate ns (start.copies ns))
  outside : ∀ ns, ns ∉ target.namespaces → left.copies ns = start.copies ns ∨
    ns ∈ start.reach (start.stale target) ∧ left.copies ns = remainder (start.copies ns)
  fromStart : ∀ token, ¬ Decides target token → token ∈ left.tokens → token ∈ start.tokens
  kept : ∀ token, ¬ Decides target token → token ∈ (start.once target).tokens →
    token ∈ left.tokens
  recordedCopies : left.status ≠ start.status → ∀ ns, ns ∉ target.namespaces →
    left.copies ns = (start.retired target).copies ns
  recordedTokens : left.status ≠ start.status → ∀ token, ¬ Decides target token →
    token ∈ left.tokens → token ∈ (start.retired target).tokens

/-- While the work on stale namespaces goes on, the status is as it was and no copy in the
target has changed. -/
theorem Partway.early {gone : List String} (status : left.status = start.status)
    (hgone : ∀ ns ∈ gone, ns ∈ start.reach (start.stale target))
    (copies : ∀ ns, left.copies ns =
      if ns ∈ gone then remainder (start.copies ns) else start.copies ns)
    (fromStart : ∀ token ∈ left.tokens, token ∈ start.tokens)
    (kept : ∀ token ∈ (start.retired target).tokens, token ∈ left.tokens) :
    start.Partway target left where
  status := .inl status
  inside ns mem := by
    rw [copies, if_neg fun hns => not_mem_stale mem (mem_of_mem_reach (hgone ns hns))]
    exact .inl rfl
  outside ns _ := by
    rw [copies]
    by_cases hns : ns ∈ gone
    · rw [if_pos hns]
      exact .inr ⟨hgone ns hns, rfl⟩
    · rw [if_neg hns]
      exact .inl rfl
  fromStart token _ mem := fromStart token mem
  kept token hfree mem := by
    rw [mem_tokens_once hfree, ← mem_tokens_retired] at mem
    exact kept token mem
  recordedCopies hne := absurd status hne
  recordedTokens hne := absurd status hne

/-- After the work on stale namespaces, copies and tokens change only as the target says. -/
theorem Partway.late (status : left.status = (start.retired target).status ∨
      left.status = some ⟨target.namespaces⟩)
    (inside : ∀ ns ∈ target.namespaces, left.copies ns = start.copies ns ∨
      left.copies ns = some (base.upToDate ns (start.copies ns)))
    (outside : ∀ ns, ns ∉ target.namespaces →
      left.copies ns = (start.retired target).copies ns)
    (tokens : ∀ token, ¬ Decides target token →
      (token ∈ left.tokens ↔ token ∈ (start.retired target).tokens)) :
    start.Partway target left where
  status := status.elim (fun hsame => hsame ▸ status_retired target) .inr
  inside := inside
  outside ns mem := by
    have hpruned : (start.pruned target).copies ns =
        if ns ∈ start.reach (start.stale target) then remainder (start.copies ns)
        else start.copies ns := rfl
    rw [outside ns mem, copies_retired_eq, hpruned]
    by_cases hns : ns ∈ start.reach (start.stale target)
    · rw [if_pos hns]
      exact .inr ⟨hns, rfl⟩
    · rw [if_neg hns]
      exact .inl rfl
  fromStart token hfree mem := (mem_tokens_retired.mp ((tokens token hfree).mp mem)).1
  kept token hfree mem := by
    rw [mem_tokens_once hfree, ← mem_tokens_retired] at mem
    exact (tokens token hfree).mpr mem
  recordedCopies _ := outside
  recordedTokens _ token hfree mem := (tokens token hfree).mp mem

/-- What there is while copies are brought up to date. -/
theorem partway_brought {done : List String} (hdone : ∀ ns ∈ done, ns ∈ target.namespaces)
    (hbring : ∀ ns ∈ done, start.MayBring live ns) :
    start.Partway target (((start.retired target).guarded target).brought done) := by
  have hmay : ∀ ns ∈ done, ((start.retired target).guarded target).MayBring live ns :=
    fun ns mem => mayBring_guarded.mpr ((mayBring_retired (hdone ns mem)).mpr (hbring ns mem))
  refine .late (.inl ?_) ?_ ?_ ?_
  · rw [status_brought, status_guarded]
  · intro ns mem
    rw [copies_brought hmay, copies_guarded, copies_retired mem]
    by_cases hns : ns ∈ done
    · rw [if_pos hns]
      exact .inr rfl
    · rw [if_neg hns]
      exact .inl rfl
  · intro ns mem
    rw [copies_brought hmay, copies_guarded, if_neg fun hns => mem (hdone ns hns)]
  · intro token hfree
    rw [tokens_brought, mem_tokens_guarded]
    exact or_iff_left fun hown => hfree (.inl hown)

/-- Then only tokens go that the target decides on, and the status is written. -/
theorem Partway.of_brought {later : Holdings base.spec.kind}
    (hbring : ∀ ns ∈ target.namespaces, start.MayBring live ns)
    (status : later.status = (start.retired target).status ∨
      later.status = some ⟨target.namespaces⟩)
    (copies : later.copies =
      (((start.retired target).guarded target).brought target.namespaces).copies)
    (tokens : ∀ token, ¬ Decides target token → (token ∈ later.tokens ↔ token ∈
      (((start.retired target).guarded target).brought target.namespaces).tokens)) :
    start.Partway target later := by
  have hbrought := partway_brought (fun _ mem => mem) hbring
  refine .late status ?_ ?_ ?_
  · rw [copies]
    exact hbrought.inside
  · intro ns mem
    rw [copies, copies_brought_of_not_mem mem, copies_guarded]
  · intro token hfree
    rw [tokens token hfree, tokens_brought, mem_tokens_guarded]
    exact or_iff_left fun hown => hfree (.inl hown)

theorem Clearing.partway (h : start.Clearing (start.stale target) left) :
    start.Partway target left := by
  cases h with
  | @before gone rest heq hgone =>
    have hreach : ∀ ns ∈ gone, ns ∈ start.reach (start.stale target) := fun ns mem =>
      heq ▸ mem_reach_of_append hgone (.inl mem)
    refine .early rfl hreach (fun _ => rfl) (fun _ mem => (mem_tokens_cleared.mp mem).1) ?_
    intro token mem
    obtain ⟨hheld, hkept, -⟩ := mem_tokens_retired.mp mem
    exact mem_tokens_cleared.mpr ⟨hheld, fun hmem => hkept (hreach token hmem)⟩
  | @between gone rest first heq hgone =>
    have hreach : ∀ ns ∈ first :: gone, ns ∈ start.reach (start.stale target) := by
      intro ns mem
      rw [← heq]
      refine mem_reach_of_append hgone ?_
      rcases List.mem_cons.mp mem with rfl | mem
      · exact .inr (by simp)
      · exact .inl mem
    refine .early rfl hreach ?_ (fun _ mem => (mem_tokens_cleared.mp mem).1) ?_
    · intro ns
      rw [copies_withdraw, copies_cleared, copies_cleared]
      by_cases hns : ns = first
      · subst hns
        rw [if_pos rfl, if_pos List.mem_cons_self]
        split
        · exact remainder_remainder _
        · rfl
      · rw [if_neg hns]
        simp only [List.mem_cons, hns, false_or]
        rfl
    · intro token mem
      obtain ⟨hheld, hkept, -⟩ := mem_tokens_retired.mp mem
      exact mem_tokens_cleared.mpr
        ⟨hheld, fun hmem => hkept (hreach token (List.mem_cons_of_mem _ hmem))⟩

theorem Interrupted.partway (h : start.Interrupted target live left) :
    start.Partway target left := by
  cases h with
  | clearing hclearing => exact hclearing.partway
  | releasing =>
    refine .early rfl (fun _ mem => mem) (fun _ => rfl)
      (fun _ mem => (mem_tokens_cleared.mp mem).1) ?_
    intro token mem
    obtain ⟨hheld, hkept, -⟩ := mem_tokens_retired.mp mem
    exact mem_tokens_cleared.mpr ⟨hheld, hkept⟩
  | retiring =>
    refine .early ?_ (fun _ mem => mem) ?_ (fun _ mem => (mem_tokens_released.mp mem).1) ?_
    · unfold released
      split <;> rfl
    · intro ns
      rw [copies_released]
      rfl
    · exact fun token mem => mem_tokens_released.mpr (mem_tokens_retired.mp mem)
  | guarding heq =>
    refine .late (.inl (status_foldl_add _)) ?_ ?_ ?_
    · intro ns mem
      rw [copies_foldl_add, copies_retired mem]
      exact .inl rfl
    · intro ns _
      rw [copies_foldl_add]
    · intro token hfree
      rw [mem_tokens_foldl_add]
      refine or_iff_left fun hmem => hfree (.inl ?_)
      exact (mem_missing.mp (heq ▸ List.mem_append_left _ hmem)).1
  | bringing heq hbring =>
    exact partway_brought (fun _ mem => heq ▸ List.mem_append_left _ mem) hbring
  | settling hall hbring heq =>
    refine .of_brought hbring (.inl ?_) (copies_foldl_drop _) ?_
    · rw [status_foldl_drop, status_brought, status_guarded]
    · intro token hfree
      rw [mem_tokens_foldl_drop]
      refine and_iff_left fun hmem => hfree (.inr ⟨hall, ?_⟩)
      exact (List.mem_filter.mp (heq ▸ List.mem_append_left _ hmem)).2
  | recording hbring =>
    refine .of_brought hbring (.inl ?_) (copies_settled _) ?_
    · rw [status_settled, status_brought, status_guarded]
    · intro token hfree
      rw [mem_tokens_settled]
      exact and_iff_left fun hgoes => hfree (.inr hgoes)

/-- A round that did not fail got to its end. -/
theorem partway_once (h : start.Feasible target live) :
    start.Partway target (start.once target) := by
  refine .of_brought h.bring (.inr rfl) (copies_settled _) ?_
  intro token hfree
  show token ∈ ((((start.retired target).guarded target).brought
    target.namespaces).settled target).tokens ↔ _
  rw [mem_tokens_settled]
  exact and_iff_left fun hgoes => hfree (.inr hgoes)

/-! ## The round after -/

theorem Partway.stale (h : start.Partway target left) :
    left.stale target = start.stale target ∧ left.processed = start.processed ∨
      left.stale target = [] := by
  rcases h.status with hsame | hrecorded
  · exact .inl ⟨stale_congr hsame target, processed_congr hsame⟩
  · refine .inr (List.eq_nil_iff_forall_not_mem.mpr fun ns mem => ?_)
    have hprocessed : left.processed = target.namespaces := by
      unfold processed
      rw [hrecorded]
      rfl
    unfold Holdings.stale at mem
    rw [hprocessed, NamespaceList.mem_stale] at mem
    exact mem.2 mem.1

/-- Where the source does not go there is no artifact that was not there before. -/
theorem Partway.occupied (h : start.Partway target left) {ns : String}
    (mem : ns ∉ target.namespaces) (hns : left.Occupied ns) : start.Occupied ns := by
  rw [occupied_iff] at hns ⊢
  intro hnone
  rcases h.outside ns mem with hsame | ⟨-, hremains⟩
  · exact hns (hsame.trans hnone)
  · rw [hnone] at hremains
    exact hns hremains

/-- The retry reaches no stale namespace that a round that did not fail would not reach. -/
theorem Partway.reach (h : start.Partway target left) {ns : String}
    (mem : ns ∈ left.reach (left.stale target)) : ns ∈ start.reach (start.stale target) := by
  rcases h.stale with ⟨hstale, -⟩ | hnone
  · rw [hstale] at mem
    exact reach_subset (fun ns hns => h.occupied (NamespaceList.mem_stale.mp hns).2) mem
  · rw [hnone] at mem
    cases mem

theorem Partway.releases (h : start.Partway target left) (hsame : left.status = start.status)
    (hreleases : left.Releases target) : start.Releases target := by
  obtain ⟨hfirst, hsingle, hall, hevery⟩ := hreleases
  refine ⟨processed_congr hsame ▸ hfirst, hsingle, fun ns mem => ?_, hevery⟩
  rw [← stale_congr hsame target] at mem
  exact h.occupied (NamespaceList.mem_stale.mp mem).2 (hall ns mem)

/-- A retry can succeed if the round could have. -/
theorem Partway.feasible (h : start.Partway target left) (hf : start.Feasible target live) :
    left.Feasible target live where
  named hne := by
    rcases h.stale with ⟨hstale, -⟩ | hnone
    · exact hf.named (hstale ▸ hne)
    · exact absurd hnone hne
  bring ns mem := by
    have hbring := hf.bring ns mem
    rcases h.inside ns mem with hsame | hnew
    · exact hbring.of_copies hsame
    · refine ⟨hbring.named, fun hnone => ?_, fun copy hcopy => ?_⟩
      · rw [hnew] at hnone
        cases hnone
      · rw [← Option.some.inj (hnew.symm.trans hcopy)]
        exact upToDate_own ns hbring.own

/-- How what a retry comes to compares with what a round comes to that did not fail. The retry
begins where the round that failed has left things, and takes away what is stale then as far
as it gets: up to the first namespace without an artifact, which may be one that the failed
round has emptied. -/
structure Retried (start : Holdings base.spec.kind) (target : TargetSet)
    (once left again : Holdings base.spec.kind) : Prop where
  status : again.status = once.status
  /-- Where the source goes nothing is different. -/
  inside : ∀ ns ∈ target.namespaces, again.copies ns = once.copies ns
  /-- Elsewhere it is what the failed round left over and the retry does not get to. -/
  outside : ∀ ns, ns ∉ target.namespaces → (again.copies ns = once.copies ns ↔
    left.copies ns = once.copies ns ∨ ns ∈ left.reach (left.stale target))
  /-- So it is with tokens of single namespaces, some of which go by themselves. -/
  tokens : ∀ token, token ≠ everyToken → ((token ∈ again.tokens ↔ token ∈ once.tokens) ↔
    (token ∈ left.tokens → token ∈ once.tokens ∨ token ∈ left.reach (left.stale target) ∨
      target.all = true ∧ ofNamespace token = true))
  /-- The token for all namespaces is held too long only if the retry does not give it back. -/
  everyGoes : (everyToken ∈ again.tokens → everyToken ∈ once.tokens) ↔
    (everyToken ∈ left.tokens → everyToken ∈ once.tokens ∨
      everyToken ∈ left.reach (left.stale target) ∨ left.Releases target)
  everyStays : left.status = start.status → everyToken ∈ once.tokens →
    everyToken ∈ again.tokens
  /-- A round that failed before it took anything away is made up for in full. -/
  untouched : left.status = start.status →
    (∀ ns, ns ∉ target.namespaces → left.copies ns = start.copies ns) →
    again.copies = once.copies ∧ ∀ token, token ∈ again.tokens ↔ token ∈ once.tokens
  /-- So is one that failed after it had written the status, but for one token. -/
  recorded : left.status ≠ start.status → again.copies = once.copies ∧
    (∀ token, token ≠ everyToken → (token ∈ again.tokens ↔ token ∈ once.tokens)) ∧
    (everyToken ∈ again.tokens → everyToken ∈ once.tokens)

theorem everyGoes_once (start left : Holdings base.spec.kind) (target : TargetSet) :
    (everyToken ∈ (left.once target).tokens → everyToken ∈ (start.once target).tokens) ↔
      (everyToken ∈ left.tokens → everyToken ∈ (start.once target).tokens ∨
        everyToken ∈ left.reach (left.stale target) ∨ left.Releases target) := by
  by_cases hdecides : Decides target everyToken
  · have hown : everyToken ∈ target.tokens :=
      hdecides.resolve_right fun hgoes => absurd hgoes.2 (by decide)
    have honce : everyToken ∈ (start.once target).tokens :=
      mem_tokens_finished.mpr ⟨.inr hown, keeps_of_mem_tokens hown⟩
    exact ⟨fun _ _ => .inl honce, fun _ _ => honce⟩
  · have hagain : everyToken ∈ (left.once target).tokens ↔ _ := mem_tokens_once hdecides
    rw [hagain]
    simp only [true_and]
    constructor
    · intro himp hleft
      by_cases hreached : everyToken ∈ left.reach (left.stale target)
      · exact .inr (.inl hreached)
      · by_cases hreleases : left.Releases target
        · exact .inr (.inr hreleases)
        · exact .inl (himp ⟨hleft, hreached, hreleases⟩)
    · rintro himp ⟨hleft, hreached, hreleases⟩
      rcases himp hleft with honce | hgoes | hgoes
      · exact honce
      · exact absurd hgoes hreached
      · exact absurd hgoes hreleases

namespace Partway

theorem inside_once (h : start.Partway target left) (hf : start.Feasible target live)
    {ns : String} (mem : ns ∈ target.namespaces) :
    (left.once target).copies ns = (start.once target).copies ns := by
  rw [copies_once (h.feasible hf), copies_once hf, if_pos mem, if_pos mem]
  rcases h.inside ns mem with hsame | hnew
  · rw [hsame]
  · rw [hnew, upToDate_upToDate ns (hf.bring ns mem).own]

theorem outside_once (h : start.Partway target left) (hf : start.Feasible target live)
    {ns : String} (mem : ns ∉ target.namespaces) :
    (left.once target).copies ns = (start.once target).copies ns ↔
      left.copies ns = (start.once target).copies ns ∨ ns ∈ left.reach (left.stale target) := by
  rw [copies_once (h.feasible hf), copies_once hf, if_neg mem, if_neg mem]
  by_cases hreached : ns ∈ left.reach (left.stale target)
  · rw [if_pos hreached, if_pos (h.reach hreached)]
    refine ⟨fun _ => .inr hreached, fun _ => ?_⟩
    rcases h.outside ns mem with hsame | ⟨-, hremains⟩
    · rw [hsame]
    · rw [hremains, remainder_remainder]
  · rw [if_neg hreached]
    exact ⟨.inl, fun hor => hor.resolve_right hreached⟩

theorem tokens_once (h : start.Partway target left) {token : String}
    (hsingle : token ≠ everyToken) :
    (token ∈ (left.once target).tokens ↔ token ∈ (start.once target).tokens) ↔
      (token ∈ left.tokens → token ∈ (start.once target).tokens ∨
        token ∈ left.reach (left.stale target) ∨
        target.all = true ∧ ofNamespace token = true) := by
  by_cases hdecides : Decides target token
  · refine ⟨fun _ _ => ?_, fun _ => mem_tokens_once_of_decides hdecides⟩
    rcases hdecides with hown | hgoes
    · exact .inl (mem_tokens_finished.mpr ⟨.inr hown, keeps_of_mem_tokens hown⟩)
    · exact .inr (.inr hgoes)
  · have hkept := h.kept token hdecides
    have hgoes : ¬ (target.all = true ∧ ofNamespace token = true) := (not_or.mp hdecides).2
    have hreach : token ∈ (start.once target).tokens →
        token ∉ left.reach (left.stale target) := fun honce hleft =>
      ((mem_tokens_once hdecides).mp honce).2.1 (h.reach hleft)
    have hagain : token ∈ (left.once target).tokens ↔ _ := mem_tokens_once hdecides
    rw [hagain]
    simp only [hsingle, false_and, not_false_eq_true, and_true, hgoes, or_false]
    constructor
    · intro hiff hleft
      by_cases hreached : token ∈ left.reach (left.stale target)
      · exact .inr hreached
      · exact .inl (hiff.mp ⟨hleft, hreached⟩)
    · intro himp
      exact ⟨fun ⟨hleft, hnot⟩ => (himp hleft).resolve_right hnot,
        fun honce => ⟨hkept honce, hreach honce⟩⟩

theorem everyStays_once (h : start.Partway target left) (hsame : left.status = start.status)
    (honce : everyToken ∈ (start.once target).tokens) :
    everyToken ∈ (left.once target).tokens := by
  by_cases hdecides : Decides target everyToken
  · exact (mem_tokens_once_of_decides hdecides).mp honce
  · obtain ⟨-, hreach, hreleases⟩ := (mem_tokens_once hdecides).mp honce
    refine (mem_tokens_once hdecides).mpr ⟨h.kept _ hdecides honce, ?_, ?_⟩
    · exact fun hleft => hreach (h.reach hleft)
    · exact fun hleft => hreleases ⟨rfl, h.releases hsame hleft.2⟩

/-- Once the status is written, only what the target decides on is still to be done. -/
theorem recorded_once (h : start.Partway target left) (hf : start.Feasible target live)
    (hne : left.status ≠ start.status) :
    (left.once target).copies = (start.once target).copies ∧
    (∀ token, token ≠ everyToken →
      (token ∈ (left.once target).tokens ↔ token ∈ (start.once target).tokens)) ∧
    (everyToken ∈ (left.once target).tokens → everyToken ∈ (start.once target).tokens) := by
  have honce : ∀ token, token ∈ left.tokens → token ∈ (start.once target).tokens ∨
      target.all = true ∧ ofNamespace token = true := by
    intro token hleft
    by_cases hdecides : Decides target token
    · rcases hdecides with hown | hgoes
      · exact .inl (mem_tokens_finished.mpr ⟨.inr hown, keeps_of_mem_tokens hown⟩)
      · exact .inr hgoes
    · have hretired := h.recordedTokens hne token hdecides hleft
      exact .inl ((mem_tokens_once hdecides).mpr (mem_tokens_retired.mp hretired))
  refine ⟨funext fun ns => ?_, fun token hsingle => ?_, ?_⟩
  · by_cases mem : ns ∈ target.namespaces
    · exact h.inside_once hf mem
    · refine (h.outside_once hf mem).mpr (.inl ?_)
      rw [h.recordedCopies hne ns mem, once, copies_finished fun ns mem =>
        (mayBring_retired mem).mpr (hf.bring ns mem), if_neg mem]
  · exact (h.tokens_once hsingle).mpr fun hleft => (honce token hleft).imp_right .inr
  · refine (everyGoes_once start left target).mpr fun hleft => ?_
    exact (honce _ hleft).imp_right fun hgoes => absurd hgoes.2 (by decide)

/-- If nothing was taken away yet, the retry has the work before it that the round had. -/
theorem untouched_once (h : start.Partway target left) (hf : start.Feasible target live)
    (hsame : left.status = start.status)
    (hcopies : ∀ ns, ns ∉ target.namespaces → left.copies ns = start.copies ns) :
    (left.once target).copies = (start.once target).copies ∧
      ∀ token, token ∈ (left.once target).tokens ↔ token ∈ (start.once target).tokens := by
  have hprocessed : left.processed = start.processed := processed_congr hsame
  have hstale : left.stale target = start.stale target := stale_congr hsame target
  have hoccupied : ∀ ns ∈ start.stale target, left.Occupied ns ↔ start.Occupied ns := by
    intro ns mem
    rw [occupied_iff, occupied_iff, hcopies ns (NamespaceList.mem_stale.mp mem).2]
  have hreach : left.reach (left.stale target) = start.reach (start.stale target) := by
    rw [hstale, reach_congr hoccupied]
  have hreleases : start.Releases target → left.Releases target := by
    rintro ⟨hfirst, hsingle, hall, hevery⟩
    refine ⟨hprocessed ▸ hfirst, hsingle, fun ns mem => ?_, hevery⟩
    rw [hstale] at mem
    exact (hoccupied ns mem).mpr (hall ns mem)
  -- Whatever is still held is dropped by the retry as it would have been by the round.
  have hdrops : ∀ token, token ∈ left.tokens → token ∈ (start.once target).tokens ∨
      token ∈ left.reach (left.stale target) ∨
      target.all = true ∧ ofNamespace token = true ∨
      token = everyToken ∧ start.Releases target := by
    intro token hleft
    by_cases hdecides : Decides target token
    · rcases hdecides with hown | hgoes
      · exact .inl (mem_tokens_finished.mpr ⟨.inr hown, keeps_of_mem_tokens hown⟩)
      · exact .inr (.inr (.inl hgoes))
    · by_cases hreached : token ∈ start.reach (start.stale target)
      · exact .inr (.inl (hreach ▸ hreached))
      · by_cases hevery : token = everyToken ∧ start.Releases target
        · exact .inr (.inr (.inr hevery))
        · exact .inl ((mem_tokens_once hdecides).mpr
            ⟨h.fromStart token hdecides hleft, hreached, hevery⟩)
  refine ⟨funext fun ns => ?_, fun token => ?_⟩
  · by_cases mem : ns ∈ target.namespaces
    · exact h.inside_once hf mem
    · rw [copies_once (h.feasible hf), copies_once hf, if_neg mem, if_neg mem, hreach,
        hcopies ns mem]
  · by_cases hevery : token = everyToken
    · subst hevery
      refine ⟨(everyGoes_once start left target).mpr fun hleft => ?_, h.everyStays_once hsame⟩
      refine (hdrops _ hleft).imp_right fun hor => hor.imp_right ?_
      rintro (hgoes | hreleased)
      · exact absurd hgoes.2 (by decide)
      · exact hreleases hreleased.2
    · refine (h.tokens_once hevery).mpr fun hleft => ?_
      refine (hdrops token hleft).imp_right fun hor => hor.imp_right ?_
      exact fun hor => hor.resolve_right fun hreleased => hevery hreleased.1

theorem retried (h : start.Partway target left) (hf : start.Feasible target live) :
    start.Retried target (start.once target) left (left.once target) where
  status := rfl
  inside _ mem := h.inside_once hf mem
  outside _ mem := h.outside_once hf mem
  tokens _ hsingle := h.tokens_once hsingle
  everyGoes := everyGoes_once start left target
  everyStays := h.everyStays_once
  untouched := h.untouched_once hf
  recorded := h.recorded_once hf

end Partway

end Holdings

theorem Cluster.Spares.elsewhere {base : ClusterConfig} {before after : Cluster}
    (h : Spares base before after) {kind : ArtifactKind} {place : ObjectKey}
    (hplace : kind = base.spec.kind → place.name ≠ base.metadata.anyName) :
    (after.artifacts kind)[place]? = (before.artifacts kind)[place]? := by
  by_cases hkind : kind = base.spec.kind
  · subst hkind
    exact h.names place (hplace rfl)
  · rw [h.kinds kind hkind]

/-- A source on which a round would succeed that does not fail: whatever a round has come to
in which calls failed, the round after it succeeds. What it leaves then is what the single
round would have left, but for what the failed round has left over of the stale copies and
their tokens, if it had taken some away, and for the token for all namespaces. -/
theorem a_retry_makes_up_for_a_round_that_failed {cluster : Cluster} {key : ObjectKey}
    {source : ClusterConfig} {rules : List (Rule Change)} {action : Action}
    (keyed : cluster.WellKeyed) (stored : cluster.sources[key]? = some source)
    (stays : source.isDeleting = false)
    (undisturbed : Simulation.Undisturbed Refusal.NotMissing { cluster, rules })
    (succeeds : (Simulation.reconcile { cluster } key).1 = .ok action) :
    let once := (Simulation.reconcile { cluster } key).2.cluster
    let left := (Simulation.reconcile { cluster, rules } key).2.cluster
    let again := (Simulation.reconcile { cluster := left } key).2.cluster
    (∃ action, (Simulation.reconcile { cluster := left } key).1 = .ok action) ∧
    (∀ kind (place : ObjectKey), (kind = source.spec.kind → place.name ≠ key.name) →
      (again.artifacts kind)[place]? = (once.artifacts kind)[place]?) ∧
    (cluster.holdings source).Retried
      (NamespaceList.target source.spec.namespaceList cluster.namespaces)
      (once.holdings source) (left.holdings source) (again.holdings source) := by
  intro once left again
  obtain rfl := keyed.sources key source stored
  have hcalm : ∀ cluster, Simulation.Undisturbed (fun _ => False) { cluster } :=
    fun _ => ⟨by simp, by simp⟩
  have hkeeps : ¬ Refusal.Loses fun _ => False := fun ⟨_, hmay, _⟩ => hmay
  obtain ⟨hfeasible, honce⟩ : (cluster.holdings source).Feasible _ cluster.namespaces ∧
      cluster.Reaches source ((cluster.holdings source).once _) once :=
    (hcalm cluster).reconcile_ok hkeeps keyed stored rfl stays rfl succeeds
  -- However the first round ended, it got part of the way.
  have hpartway : ∃ middle, (cluster.holdings source).Partway
      (NamespaceList.target source.spec.namespaceList cluster.namespaces) middle ∧
      cluster.Reaches source middle left := by
    cases hresult : (Simulation.reconcile { cluster, rules } source.metadata.key).1 with
    | ok action =>
      obtain ⟨-, hleft⟩ := undisturbed.reconcile_ok Refusal.not_loses_notMissing keyed stored rfl
        stays rfl hresult
      exact ⟨_, Holdings.partway_once hfeasible, hleft⟩
    | error error =>
      obtain ⟨⟨next, hinterrupted, hleft⟩, -⟩ := undisturbed.reconcile_error
        Refusal.not_loses_notMissing keyed stored rfl stays rfl hresult
      exact ⟨next, hinterrupted.partway, hleft⟩
  obtain ⟨middle, hmiddle, hleft⟩ := hpartway
  obtain ⟨next, hnext, alike⟩ := hleft.stays
  have hnamespaces : left.namespaces = cluster.namespaces := hleft.spares.namespaces
  have htarget : NamespaceList.target source.spec.namespaceList left.namespaces =
      NamespaceList.target source.spec.namespaceList cluster.namespaces := by rw [hnamespaces]
  cases hresult : (Simulation.reconcile { cluster := left } source.metadata.key).1 with
  | error error =>
    obtain ⟨-, ⟨refusal, hmay⟩ | hinfeasible⟩ := (hcalm left).reconcile_error hkeeps hleft.keyed
      hnext alike stays htarget hresult
    · exact hmay.elim
    · have hleftInfeasible : ¬ (left.holdings source).Feasible _ left.namespaces := hinfeasible
      rw [hleft.holds, hnamespaces] at hleftInfeasible
      exact absurd (hmiddle.feasible hfeasible) hleftInfeasible
  | ok action =>
    have hagain : left.Reaches source ((left.holdings source).once _) again :=
      ((hcalm left).reconcile_ok hkeeps hleft.keyed hnext alike stays htarget hresult).2
    refine ⟨⟨action, rfl⟩, fun kind place hplace => ?_, ?_⟩
    · rw [hagain.spares.elsewhere hplace, hleft.spares.elsewhere hplace,
        honce.spares.elsewhere hplace]
    · rw [honce.holds, hagain.holds, hleft.holds]
      exact hmiddle.retried hfeasible

/-- The call that fails first creates the copy in a namespace. The retry creates it. -/
theorem a_retry_creates_a_copy_that_could_not_be_created :
    ((Simulation.reconcile { cluster := (Simulation.reconcile
        { cluster := .trial ["a", "b"] "a,b",
          rules := [{ on := "create ConfigMap b/*", refusal := some { code := 500 } }] }
        ⟨"default", "app-config"⟩).2.cluster } ⟨"default", "app-config"⟩).2.cluster.holdings
          ((ClusterConfig.trial "a,b").atVersion 1)).copies "b" =
      ((Simulation.reconcile { cluster := .trial ["a", "b"] "a,b" }
        ⟨"default", "app-config"⟩).2.cluster.holdings
          ((ClusterConfig.trial "a,b").atVersion 1)).copies "b" := by
  have hretried := (@a_retry_makes_up_for_a_round_that_failed _ _ _
    [{ on := "create ConfigMap b/*", refusal := some { code := 500 } }] .awaitChange
    (Cluster.keyed_trial ["a", "b"] "a,b") (Cluster.fresh_trial _ _).stored
    (by decide +kernel) ⟨by simp, by simp [Refusal.NotMissing]⟩ (by decide +kernel)).2.2
  exact hretried.inside "b" (by decide +kernel)

/-- A source goes to two namespaces first and to a third one later. The round that makes the
change takes the first copy away and fails to drop its token. The retry finds no copy there,
and leaves the second one where it is. -/
theorem a_retry_may_leave_a_stale_copy :
    ∃ (cluster : Cluster) (key : ObjectKey) (source : ClusterConfig) (position : Nat)
      (refusal : Refusal) (action : Action) (place : ObjectKey),
      cluster.WellKeyed ∧ cluster.sources[key]? = some source ∧ source.isDeleting = false ∧
      refusal.NotMissing ∧ (Simulation.reconcile { cluster } key).1 = .ok action ∧
      position < (Simulation.reconcile { cluster } key).2.calls.length ∧
      ((Simulation.reconcile { cluster } key).2.cluster.artifacts source.spec.kind).contains
        place = false ∧
      ((Simulation.reconcile { cluster := (Simulation.reconcile { cluster, rules :=
        [{ on := "*", skip := position, times := some 1, refusal := some refusal }] }
          key).2.cluster } key).2.cluster.artifacts source.spec.kind).contains place = true := by
  have hfair : ∀ turn ∈ [Turn.round [], .edit "c" {("k", "v")}], turn.Fair := by simp
  have fresh := Cluster.fresh_trial ["a", "b", "c"] "a,b"
  obtain ⟨source, stored, hsource⟩ := (Option.any_eq_true _ _).mp
    (show (((Cluster.trial ["a", "b", "c"] "a,b").afterTurns ⟨"default", "app-config"⟩
      [.round [], .edit "c" {("k", "v")}]).sources[(⟨"default", "app-config"⟩ :
        ObjectKey)]?).any (fun source => !source.isDeleting && source.spec.kind = .configMap) =
          true by decide +kernel)
  simp only [Bool.and_eq_true, Bool.not_eq_eq_eq_not, Bool.not_true,
    decide_eq_true_eq] at hsource
  refine ⟨_, _, source, 3, { code := 500 }, .awaitChange, ⟨"b", "app-config"⟩,
    (Cluster.orderly_afterTurns (fresh.orderly rfl) hfair).keyed, stored, hsource.1,
    by simp [Refusal.NotMissing], by decide +kernel, by decide +kernel, ?_, ?_⟩
  · rw [hsource.2]
    decide +kernel
  · rw [hsource.2]
    decide +kernel

end ConfigFanout
