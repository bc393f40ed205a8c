import ConfigFanout.Proofs.Runs

-- Tokens as guards: a namespace with a copy of the source is guarded by its own token or by
-- the token for all namespaces. A guard is lost only with the token for all namespaces, if a
-- round drops that too early.
namespace ConfigFanout

namespace Holdings

variable {base : ClusterConfig} {holdings middle next : Holdings base.spec.kind}
  {target : TargetSet} {live : List String}

/-- A namespace has its own token, or there is the token for all of them. -/
def Guards (holdings : Holdings base.spec.kind) (ns : String) : Prop :=
  ns ∈ holdings.tokens ∨ everyToken ∈ holdings.tokens

/-- A namespace had a copy before, and if it had its own token, that is still there, unless it
is the token for all namespaces. -/
def Retains (holdings next : Holdings base.spec.kind) (ns : String) : Prop :=
  holdings.Bears ns ∧ (ns ∈ holdings.tokens → ns ∈ next.tokens ∨ ns = everyToken)

/-- No copy is new, and no copy is left without its own token. -/
def Keeps (holdings next : Holdings base.spec.kind) : Prop :=
  ∀ ns, next.Bears ns → holdings.Retains next ns

theorem Keeps.trans (h₁ : holdings.Keeps middle) (h₂ : middle.Keeps next) :
    holdings.Keeps next := by
  intro ns hns
  obtain ⟨hmiddle, hlast⟩ := h₂ ns hns
  obtain ⟨hfirst, hheld⟩ := h₁ ns hmiddle
  exact ⟨hfirst, fun mem => (hheld mem).elim hlast .inr⟩

theorem keeps_of_copies (hcopies : next.copies = holdings.copies)
    (htokens : ∀ ns ∈ holdings.tokens, ns ∈ next.tokens ∨ ns = everyToken) :
    holdings.Keeps next := by
  rintro ns ⟨copy, hcopy, howner⟩
  rw [hcopies] at hcopy
  exact ⟨⟨copy, hcopy, howner⟩, htokens ns⟩

theorem bears_cleared {gone : List String} {ns : String} :
    (holdings.cleared gone).Bears ns ↔ holdings.Bears ns ∧ ns ∉ gone := by
  unfold Bears
  rw [copies_cleared]
  by_cases hgone : ns ∈ gone
  · rw [if_pos hgone]
    constructor
    · rintro ⟨copy, hcopy, howner⟩
      exact absurd howner (Artifact.owner?_of_filter_foreign hcopy)
    · exact fun h => absurd hgone h.2
  · rw [if_neg hgone]
    exact ⟨fun h => ⟨h, hgone⟩, fun h => h.1⟩

theorem keeps_cleared (gone : List String) : holdings.Keeps (holdings.cleared gone) := by
  intro ns hns
  obtain ⟨hbefore, hgone⟩ := bears_cleared.mp hns
  exact ⟨hbefore, fun mem => .inl (mem_tokens_cleared.mpr ⟨mem, hgone⟩)⟩

theorem keeps_withdraw (ns : String) : holdings.Keeps (holdings.withdraw ns) := by
  rintro other ⟨copy, hcopy, howner⟩
  rw [copies_withdraw] at hcopy
  split at hcopy
  · exact absurd howner (Artifact.owner?_of_filter_foreign hcopy)
  · exact ⟨⟨copy, hcopy, howner⟩, .inl⟩

theorem keeps_dropEvery : holdings.Keeps (holdings.drop everyToken) := by
  refine keeps_of_copies rfl fun ns mem => ?_
  by_cases hns : ns = everyToken
  · exact .inr hns
  · exact .inl ((mem_tokens_drop _).mpr ⟨mem, hns⟩)

theorem keeps_released : holdings.Keeps (holdings.released target) := by
  unfold released
  split
  · exact (keeps_cleared _).trans keeps_dropEvery
  · exact keeps_cleared _

theorem keeps_retired : holdings.Keeps (holdings.retired target) := by
  unfold retired
  split
  · exact fun ns hns => ⟨hns, .inl⟩
  · exact keeps_released.trans (keeps_of_copies rfl fun _ mem => .inl mem)

theorem keeps_addTokens (tokens : List String) :
    holdings.Keeps (tokens.foldl add (holdings)) :=
  keeps_of_copies (copies_foldl_add tokens) fun _ mem => .inl (mem_tokens_foldl_add.mpr (.inl mem))

/-- Once its tokens are there, a target is guarded. -/
theorem guards_guarded {ns : String} (h : ns ∈ target.namespaces) :
    (holdings.guarded target).Guards ns := by
  unfold Guards
  rw [mem_tokens_guarded, mem_tokens_guarded, TargetSet.tokens]
  by_cases hall : target.all
  · rw [if_pos hall]
    exact .inr (.inr List.mem_cons_self)
  · rw [if_neg hall]
    exact .inl (.inr h)

/-- What bears a copy late in a round is guarded, or bore one before and kept its token. -/
theorem brought_bears {done : List String} (hdone : ∀ ns ∈ done, ns ∈ target.namespaces)
    {ns : String} (h : (((holdings.retired target).guarded target).brought done).Bears ns) :
    holdings.Retains (((holdings.retired target).guarded target).brought done) ns ∨
      (((holdings.retired target).guarded target).brought done).Guards ns := by
  unfold Retains Guards
  rw [tokens_brought]
  by_cases hns : ns ∈ done
  · exact .inr (guards_guarded (hdone ns hns))
  · left
    unfold Bears at h
    rw [copies_brought_of_not_mem hns] at h
    exact (keeps_retired.trans (keeps_addTokens _)) ns h

theorem settled_bears {ns : String} (h : (((((holdings.retired target).guarded target).brought
      target.namespaces)).settled target).Bears ns) :
    holdings.Retains ((((holdings.retired target).guarded target).brought
        target.namespaces).settled target) ns ∨
      ((((holdings.retired target).guarded target).brought
        target.namespaces).settled target).Guards ns := by
  by_cases hall : target.all
  · refine .inr (.inr (mem_tokens_settled.mpr ⟨?_, ?_⟩))
    · rw [tokens_brought, mem_tokens_guarded, TargetSet.tokens, if_pos hall]
      exact .inr List.mem_cons_self
    · exact fun hgoes => absurd hgoes.2 (by decide)
  · unfold settled at h ⊢
    rw [if_neg hall] at h ⊢
    exact brought_bears (fun _ mem => mem) h

/-- Wherever a round is cut short, what bears a copy then is guarded, or bore one before and
kept its token. -/
theorem Interrupted.bears (h : holdings.Interrupted target live next) {ns : String}
    (hns : next.Bears ns) : holdings.Retains next ns ∨ next.Guards ns := by
  cases h with
  | clearing hclearing =>
    left
    cases hclearing with
    | before => exact keeps_cleared _ ns hns
    | between => exact ((keeps_cleared _).trans (keeps_withdraw _)) ns hns
  | releasing => exact .inl (keeps_cleared _ ns hns)
  | retiring => exact .inl (keeps_released ns hns)
  | guarding => exact .inl ((keeps_retired.trans (keeps_addTokens _)) ns hns)
  | bringing heq => exact brought_bears (fun _ mem => heq ▸ List.mem_append_left _ mem) hns
  | @settling done rest hall _ heq =>
    refine .inr (.inr (mem_tokens_foldl_drop.mpr ⟨?_, ?_⟩))
    · rw [tokens_brought, mem_tokens_guarded, TargetSet.tokens, if_pos hall]
      exact .inr List.mem_cons_self
    · intro mem
      have hmem := heq ▸ List.mem_append_left rest mem
      exact absurd (List.mem_filter.mp hmem).2 (by decide)
  | recording => exact settled_bears hns

/-- How a round may drop the token for all namespaces where one of them keeps its copy: as the
token of a stale namespace of that name, or by giving it back where the namespace is one of the
target or unknown to the status. -/
def Bares (holdings : Holdings base.spec.kind) (target : TargetSet) (ns : String) : Prop :=
  everyToken ∈ holdings.stale target ∨
    holdings.Releases target ∧ (ns ∈ target.namespaces ∨ ns ∉ holdings.processed)

theorem bares_of_retired {ns : String} (held : everyToken ∈ holdings.tokens)
    (gone : everyToken ∉ (holdings.retired target).tokens)
    (hns : ns ∉ target.namespaces → (holdings.retired target).Bears ns) :
    holdings.Bares target ns := by
  by_cases hreached : everyToken ∈ holdings.reach (holdings.stale target)
  · exact .inl (mem_of_mem_reach hreached)
  have hreleases : holdings.Releases target := by
    refine Decidable.byContradiction fun hnot => gone (mem_tokens_retired.mpr ?_)
    exact ⟨held, hreached, fun h => hnot h.2⟩
  refine .inr ⟨hreleases, Decidable.or_iff_not_imp_left.mpr fun mem hprocessed => ?_⟩
  -- The token is given back only if all that is stale was reached.
  have hleft : ns ∉ holdings.stale target := by
    have hbears := hns mem
    unfold Bears at hbears
    rw [copies_retired_eq] at hbears
    rw [← reach_of_occupied hreleases.2.2.1]
    exact (bears_cleared.mp hbears).2
  exact hleft (NamespaceList.mem_stale.mpr ⟨hprocessed, mem⟩)

/-- Late in a round the token for all namespaces is there if it was not dropped before. -/
theorem bares_of_brought {done : List String} (hdone : ∀ ns ∈ done, ns ∈ target.namespaces)
    {later : Holdings base.spec.kind}
    (hcopies : later.copies = (((holdings.retired target).guarded target).brought done).copies)
    (htokens : everyToken ∈ (((holdings.retired target).guarded target).brought done).tokens →
      everyToken ∈ later.tokens) {ns : String} (hns : later.Bears ns)
    (held : everyToken ∈ holdings.tokens) (gone : everyToken ∉ later.tokens) :
    holdings.Bares target ns := by
  rw [tokens_brought, mem_tokens_guarded] at htokens
  refine bares_of_retired held (fun mem => gone (htokens (.inl mem))) fun mem => ?_
  unfold Bears at hns ⊢
  rwa [hcopies, copies_brought_of_not_mem (mt (hdone ns) mem), copies_guarded] at hns

theorem everyToken_mem_settled (h : everyToken ∈ holdings.tokens) :
    everyToken ∈ (holdings.settled target).tokens :=
  mem_tokens_settled.mpr ⟨h, fun hgoes => absurd hgoes.2 (by decide)⟩

/-- Wherever a round is cut short, the token for all namespaces is there or was dropped in one
of the two ways. -/
theorem Interrupted.bares (h : holdings.Interrupted target live next) {ns : String}
    (hns : next.Bears ns) (held : everyToken ∈ holdings.tokens)
    (gone : everyToken ∉ next.tokens) : holdings.Bares target ns := by
  have hcleared : ∀ {list : List String}, everyToken ∉ (holdings.cleared list).tokens →
      everyToken ∈ list :=
    fun h => Decidable.byContradiction fun hnot => h (mem_tokens_cleared.mpr ⟨held, hnot⟩)
  cases h with
  | clearing hclearing =>
    left
    cases hclearing with
    | before heq => exact heq ▸ List.mem_append_left _ (hcleared gone)
    | between heq => exact heq ▸ List.mem_append_left _ (hcleared gone)
  | releasing => exact .inl (mem_of_mem_reach (hcleared gone))
  | retiring =>
    refine bares_of_retired held (fun mem => gone ?_) fun _ => ?_
    · exact mem_tokens_released.mpr (mem_tokens_retired.mp mem)
    · unfold Bears at hns ⊢
      rwa [copies_released, ← copies_retired_eq] at hns
  | guarding =>
    refine bares_of_retired held (fun mem => gone (mem_tokens_foldl_add.mpr (.inl mem))) ?_
    unfold Bears at hns ⊢
    rw [copies_foldl_add] at hns
    exact fun _ => hns
  | bringing heq =>
    exact bares_of_brought (fun _ mem => heq ▸ List.mem_append_left _ mem) rfl id hns held gone
  | settling _ _ heq =>
    refine bares_of_brought (fun _ mem => mem) (copies_foldl_drop _) (fun mem => ?_) hns held gone
    refine mem_tokens_foldl_drop.mpr ⟨mem, fun hdropped => ?_⟩
    exact absurd (List.mem_filter.mp (heq ▸ List.mem_append_left _ hdropped)).2 (by decide)
  | recording =>
    exact bares_of_brought (fun _ mem => mem) (copies_settled _) everyToken_mem_settled hns held
      gone

/-- What there may be after a round, whether it succeeds or fails. -/
def Ends (holdings : Holdings base.spec.kind) (target : TargetSet) (live : List String)
    (next : Holdings base.spec.kind) : Prop :=
  next = (holdings.retired target).finished target ∨ holdings.Interrupted target live next

theorem Ends.bears (h : holdings.Ends target live next) {ns : String} (hns : next.Bears ns) :
    holdings.Retains next ns ∨ next.Guards ns := by
  rcases h with rfl | hinterrupted
  · exact settled_bears hns
  · exact hinterrupted.bears hns

theorem Ends.bares (h : holdings.Ends target live next) {ns : String} (hns : next.Bears ns)
    (held : everyToken ∈ holdings.tokens) (gone : everyToken ∉ next.tokens) :
    holdings.Bares target ns := by
  rcases h with rfl | hinterrupted
  · exact bares_of_brought (fun _ mem => mem) (copies_settled _) everyToken_mem_settled hns held
      gone
  · exact hinterrupted.bares hns held gone

end Holdings

namespace Cluster

variable {cluster : Cluster} {key : ObjectKey} {kind : ArtifactKind} {source : ClusterConfig}

/-- Unless the source is gone or on its way out, every namespace with an artifact labelled for
it has its own token among the finalizers, or there is the token for all namespaces. -/
def Guarded (key : ObjectKey) (cluster : Cluster) : Prop :=
  ∀ source, cluster.sources[key]? = some source → source.isDeleting = false →
    ∀ ns, cluster.Labelled source.spec.kind key ns →
      source.holds ns = true ∨ source.holds everyToken = true

/-- A round for a source drops the token for all namespaces although a namespace may keep its
artifact: a namespace of that name is stale, or what is stale has artifacts everywhere, and the
namespace is not stale, be it that the source still goes there or that the status does not
know of it. -/
def Drops (cluster : Cluster) (source : ClusterConfig) (ns : String) : Prop :=
  let target := NamespaceList.target source.spec.namespaceList cluster.namespaces
  let stale := NamespaceList.stale target.namespaces source.processed
  everyToken ∈ stale ∨
    (source.processed ≠ [] ∧ target.all = false ∧
      (∀ other ∈ stale, (cluster.artifacts source.spec.kind).contains
        (⟨other, source.metadata.anyName⟩ : ObjectKey) = true) ∧
      everyToken ∉ target.namespaces) ∧ (ns ∈ target.namespaces ∨ ns ∉ source.processed)

instance (cluster : Cluster) (source : ClusterConfig) (ns : String) :
    Decidable (cluster.Drops source ns) :=
  inferInstanceAs (Decidable (_ ∨ (_ ∧ _ ∧ _ ∧ _) ∧ (_ ∨ _)))

/-- A round takes the guard from a namespace: the only token that guards it is the one for all
namespaces, the round drops that one, and the artifact stays. -/
structure Uncovers (key : ObjectKey) (before after : Cluster) (source final : ClusterConfig)
    (ns : String) : Prop where
  stored : before.sources[key]? = some source
  held : source.holds everyToken = true
  alone : source.holds ns = false ∨ ns = everyToken
  labelled : before.Labelled source.spec.kind key ns
  drops : before.Drops source ns
  kept : after.sources[key]? = some final
  stays : final.isDeleting = false
  dropped : final.holds everyToken = false
  without : final.holds ns = false
  remains : after.Labelled final.spec.kind key ns

theorem Leaves.guarded (h : cluster.Leaves key) : cluster.Guarded key := by
  intro source stored stays
  rw [h source stored] at stays
  cases stays

theorem Fresh.guarded (h : cluster.Fresh key source) : cluster.Guarded key := by
  intro other stored _ ns hlabelled
  obtain rfl := Option.some.inj (h.stored.symm.trans stored)
  exact absurd hlabelled (h.unlabelled ns)

theorem Uncovers.not_guarded {before after : Cluster} {final : ClusterConfig} {ns : String}
    (h : Uncovers key before after source final ns) : ¬ after.Guarded key := by
  intro hguarded
  rcases hguarded final h.kept h.stays ns h.remains with hheld | hheld
  · rw [h.without] at hheld
    cases hheld
  · rw [h.dropped] at hheld
    cases hheld

theorem drops_of_bares {base : ClusterConfig} {ns : String}
    (stored : cluster.sources[base.metadata.key]? = some base)
    (h : (cluster.holdings base).Bares
      (NamespaceList.target base.spec.namespaceList cluster.namespaces) ns) :
    cluster.Drops base ns := by
  have hprocessed := Holdings.processed_holdings stored
  unfold Holdings.Bares Holdings.Releases Holdings.stale at h
  rw [hprocessed] at h
  refine h.imp_right fun hreleases => hreleases.imp_left fun hgives => ?_
  exact ⟨hgives.1, hgives.2.1,
    fun other mem => Holdings.occupied_holdings.mp (hgives.2.2.1 other mem), hgives.2.2.2⟩

/-- A round keeps the guard unless it uncovers a namespace. -/
theorem Guarded.round (h : cluster.Guarded key) (ho : cluster.Orderly key kind)
    {rules : List (Rule Change)} (fair : (Turn.round rules).Fair)
    (covers : ∀ source final ns,
      ¬ Uncovers key cluster ((Turn.round rules).take key cluster) source final ns) :
    ((Turn.round rules).take key cluster).Guarded key := by
  obtain ⟨base, next, stored, stays, rfl, rfl, hreaches, hnext⟩ := ho.round fair
  have hafter := hreaches.orderly stays ho
  obtain ⟨final, hfinal, alike⟩ := hreaches.stays
  have hkind : final.spec.kind = base.spec.kind :=
    ClusterConfig.kind_of_alike alike
  have hheld : ∀ token, base.holds token = true ↔ token ∈ (cluster.holdings base).tokens := by
    intro token
    rw [ClusterConfig.holds, ← tokens_holdings stored, List.contains_iff_mem]
  have hholds : ∀ token, final.holds token = true ↔ token ∈ next.tokens := by
    intro token
    rw [ClusterConfig.holds, ← tokens_holdings hfinal, hreaches.holds, List.contains_iff_mem]
  have hends : (cluster.holdings base).Ends
      (NamespaceList.target base.spec.namespaceList cluster.namespaces) cluster.namespaces next :=
    hnext.imp (fun hfinished => hfinished.2.1) fun hinterrupted => hinterrupted.2
  intro other hother hstays ns hlabelled
  obtain rfl := Option.some.inj (hfinal.symm.trans hother)
  by_cases hguards : next.Guards ns
  · exact hguards.imp (hholds ns).mpr (hholds everyToken).mpr
  · -- A namespace without a guard had a copy, and no guard but the token for all.
    obtain ⟨hown, hevery⟩ := not_or.mp hguards
    have hns : next.Bears ns := hreaches.holds ▸ hafter.labelled_iff.mp (hkind ▸ hlabelled)
    obtain ⟨hbefore, hkept⟩ := (hends.bears hns).resolve_right hguards
    have halone : base.holds ns = false ∨ ns = everyToken := by
      by_cases hmem : base.holds ns = true
      · exact .inr ((hkept ((hheld ns).mp hmem)).resolve_left hown)
      · exact .inl (Bool.eq_false_iff.mpr hmem)
    have hall : base.holds everyToken = true := by
      rcases h base stored stays ns (ho.labelled_iff.mpr hbefore) with hmem | hall
      · rcases halone with hnone | heq
        · rw [hnone] at hmem
          cases hmem
        · exact heq ▸ hmem
      · exact hall
    exact absurd
      { stored, held := hall, alone := halone, labelled := ho.labelled_iff.mpr hbefore,
        drops := drops_of_bares stored (hends.bares hns ((hheld _).mp hall) hevery), kept := hfinal,
        stays := hstays, dropped := Bool.eq_false_iff.mpr (mt (hholds everyToken).mp hevery),
        without := Bool.eq_false_iff.mpr (mt (hholds ns).mp hown), remains := hlabelled }
      (covers base final ns)

/-- What others do between rounds takes no guard away. -/
theorem Guarded.take (h : cluster.Guarded key) {turn : Turn}
    (hothers : ∀ rules, turn ≠ .round rules) : (turn.take key cluster).Guarded key := by
  cases turn with
  | round rules => exact absurd rfl (hothers rules)
  | edit namespaceList data =>
    simp only [Turn.take]
    split
    · next source stored =>
      intro other hother hstays ns hlabelled
      rw [sources_putSource, if_pos rfl] at hother
      cases hother
      unfold Labelled at hlabelled
      rw [artifacts_putSource] at hlabelled
      exact h source stored hstays ns hlabelled
    · exact h
  | addNamespace ns =>
    intro source stored hstays ns hlabelled
    refine h source stored hstays ns ?_
    obtain ⟨name, artifact, found, howner⟩ := hlabelled
    rw [Turn.artifacts_addNamespace] at found
    exact ⟨name, artifact, found, howner⟩
  | loseArtifact lost place =>
    intro source stored hstays ns hlabelled
    simp only [Turn.take, sources_removeArtifact] at stored
    refine h source stored hstays ns ?_
    obtain ⟨name, artifact, found, howner⟩ := hlabelled
    refine ⟨name, artifact, ?_, howner⟩
    simp only [Turn.take] at found
    by_cases hkind : source.spec.kind = lost
    · subst hkind
      rw [artifacts_removeArtifact] at found
      split at found
      · cases found
      · exact found
    · rwa [artifacts_removeArtifact_ne _ hkind] at found

theorem guarded_afterTurns {turns : List Turn} (h : cluster.Guarded key)
    (ho : cluster.Leaves key ∨ cluster.Orderly key kind) (fair : ∀ turn ∈ turns, turn.Fair)
    (covers : ∀ done rules rest source final ns, done ++ .round rules :: rest = turns →
      ¬ Uncovers key (cluster.afterTurns key done)
        ((Turn.round rules).take key (cluster.afterTurns key done)) source final ns)
    {done rest : List Turn} (heq : done ++ rest = turns) :
    (cluster.afterTurns key done).Guarded key := by
  induction done generalizing cluster turns with
  | nil => exact h
  | cons turn later ih =>
    subst heq
    have hturn := fair turn List.mem_cons_self
    have hnext : (turn.take key cluster).Guarded key := by
      by_cases hround : ∃ rules, turn = .round rules
      · obtain ⟨rules, rfl⟩ := hround
        rcases ho with hleaves | horderly
        · exact (hleaves.take hturn).guarded
        · exact h.round horderly hturn fun source final ns =>
            covers [] rules (later ++ rest) source final ns rfl
      · exact h.take fun rules hrules => hround ⟨rules, hrules⟩
    refine ih hnext ?_
      (fun other mem => fair other (List.mem_cons_of_mem _ mem)) ?_ rfl
    · exact ho.imp (fun hleaves => hleaves.take hturn) fun horderly => horderly.take hturn
    · intro done rules others source final ns hlater
      exact covers (turn :: done) rules others source final ns
        (by rw [List.cons_append, hlater]; rfl)

end Cluster

/-- Whatever happens to a source that was never worked on, every namespace with an artifact
labelled for it stays guarded as long as no round drops the token for all namespaces while one
of them has no other guard and keeps its artifact, and not longer. -/
theorem the_guard_lasts_as_long_as_no_round_uncovers {cluster : Cluster} {key : ObjectKey}
    {source : ClusterConfig} {turns : List Turn} (fresh : cluster.Fresh key source)
    (fair : ∀ turn ∈ turns, turn.Fair) :
    (∀ done rest, done ++ rest = turns → (cluster.afterTurns key done).Guarded key) ↔
      ∀ done rules rest before final ns, done ++ .round rules :: rest = turns →
        ¬ Cluster.Uncovers key (cluster.afterTurns key done)
          ((Turn.round rules).take key (cluster.afterTurns key done)) before final ns := by
  constructor
  · intro hguarded done rules rest before final ns heq huncovers
    refine huncovers.not_guarded ?_
    have hafter := hguarded (done ++ [.round rules]) rest (by rw [← heq]; simp)
    rwa [Cluster.afterTurns, List.foldl_append] at hafter
  · intro covers done rest heq
    refine Cluster.guarded_afterTurns fresh.guarded
      (?_ : _ ∨ cluster.Orderly key source.spec.kind) fair covers heq
    cases stays : source.isDeleting with
    | false => exact .inr (fresh.orderly stays)
    | true =>
      refine .inl fun other hother => ?_
      rwa [Option.some.inj (hother.symm.trans fresh.stored)]

/-- A source goes to all namespaces first and to a single one later. The round that makes the
change gives the token for all namespaces back, and then fails to put up the other one. -/
theorem a_guard_is_lost_between_two_tokens :
    ¬ ∀ done rest, done ++ rest = [.round [], .edit "a" {("k", "v")},
        .round [{ on := "update_source *", skip := 1, refusal := some { code := 500 } }]] →
      ((Cluster.trial ["a"] "all").afterTurns ⟨"default", "app-config"⟩ done).Guarded
        ⟨"default", "app-config"⟩ := by
  intro hguarded
  obtain ⟨source, stored, hsource⟩ := (Option.any_eq_true _ _).mp
    (show (((Cluster.trial ["a"] "all").afterTurns ⟨"default", "app-config"⟩
      [.round [], .edit "a" {("k", "v")}]).sources[(⟨"default", "app-config"⟩ :
        ObjectKey)]?).any (fun source => source.holds everyToken && !source.holds "a" &&
          source.spec.kind = .configMap && ((Cluster.trial ["a"] "all").afterTurns
            ⟨"default", "app-config"⟩ [.round [], .edit "a" {("k", "v")}]).Drops source "a") =
              true by decide +kernel)
  obtain ⟨final, kept, hfinal⟩ := (Option.any_eq_true _ _).mp
    (show (((Cluster.trial ["a"] "all").afterTurns ⟨"default", "app-config"⟩
      [.round [], .edit "a" {("k", "v")}, .round
        [{ on := "update_source *", skip := 1, refusal := some { code := 500 } }]]).sources[
          (⟨"default", "app-config"⟩ : ObjectKey)]?).any (fun final => !final.isDeleting &&
            !final.holds everyToken && !final.holds "a" && final.spec.kind = .configMap) =
              true by decide +kernel)
  simp only [Bool.and_eq_true, Bool.not_eq_eq_eq_not, Bool.not_true,
    decide_eq_true_eq] at hsource hfinal
  obtain ⟨⟨⟨held, halone⟩, hkind⟩, drops⟩ := hsource
  obtain ⟨⟨⟨stays, dropped⟩, without⟩, hkindFinal⟩ := hfinal
  refine (the_guard_lasts_as_long_as_no_round_uncovers (Cluster.fresh_trial ["a"] "all") ?_).mp
    hguarded [.round [], .edit "a" {("k", "v")}] _ [] source final "a" rfl
      { stored, held, drops, kept, stays, dropped, without, alone := .inl halone,
        labelled := ?_, remains := ?_ }
  · simp [Refusal.NotMissing]
  · rw [hkind]
    exact Cluster.labelled_of_any ⟨"a", "app-config"⟩ (by decide +kernel)
  · rw [hkindFinal]
    exact Cluster.labelled_of_any ⟨"a", "app-config"⟩ (by decide +kernel)

end ConfigFanout
