import Mathlib.Data.List.Induction
import ConfigFanout.Proofs.Scope
import ConfigFanout.Proofs.Spellings
import ConfigFanout.Routing

-- Who is woken when a namespace comes up. The sources are kept as they were seen last, and those
-- are woken whose rounds ask for all namespaces; a round for another source that stays never
-- asks for them.
namespace ConfigFanout

/-! ## Sources as they were seen last -/

/-- A version of a source that was seen, and after it no other one of the same source. -/
def IsLatest (sources : List ClusterConfig) (source : ClusterConfig) : Prop :=
  ∃ before later, sources = before ++ source :: later ∧ ∀ other ∈ later, other.ref ≠ source.ref

theorem isLatest_concat {sources : List ClusterConfig} {last source : ClusterConfig} :
    IsLatest (sources ++ [last]) source ↔
      source = last ∨ last.ref ≠ source.ref ∧ IsLatest sources source := by
  constructor
  · rintro ⟨before, later, heq, hlater⟩
    rcases List.eq_nil_or_concat later with rfl | ⟨rest, other, rfl⟩
    · obtain ⟨-, hlast⟩ := List.append_inj' heq rfl
      cases hlast
      exact .inl rfl
    · rw [List.concat_eq_append, ← List.cons_append, ← List.append_assoc] at heq
      obtain ⟨rfl, hlast⟩ := List.append_inj' heq rfl
      cases hlast
      rw [List.concat_eq_append] at hlater
      obtain ⟨hrest, hother⟩ := List.forall_mem_append.mp hlater
      exact .inr ⟨hother last List.mem_cons_self, before, rest, rfl, hrest⟩
  · rintro (rfl | ⟨hother, before, later, rfl, hlater⟩)
    · exact ⟨sources, [], rfl, by simp⟩
    · refine ⟨before, later ++ [last], by simp, List.forall_mem_append.mpr ⟨hlater, ?_⟩⟩
      simpa using hother

namespace KnownSources

variable {known : KnownSources} {sources : List ClusterConfig} {source : ClusterConfig}
  {ref : SourceRef}

/-- A source that is seen takes the place of what was known of it, and of nothing else. -/
theorem getElem?_see (known : KnownSources) (source : ClusterConfig) (ref : SourceRef) :
    (known.see source)[ref]? = if source.ref = ref then some source else known[ref]? := by
  rw [see, Std.ExtTreeMap.getElem?_insert]
  simp only [Std.compare_eq_iff_eq]

theorem getElem?_ofSeen :
    (ofSeen sources)[ref]? = some source ↔ IsLatest sources source ∧ source.ref = ref := by
  induction sources using List.reverseRecOn with
  | nil =>
    simp [ofSeen, IsLatest]
  | append_singleton sources last ih =>
    have hseen : ofSeen (sources ++ [last]) = (ofSeen sources).see last := by
      rw [ofSeen, List.foldl_append]
      rfl
    rw [hseen, getElem?_see, isLatest_concat]
    by_cases hlast : last.ref = ref
    · rw [if_pos hlast]
      constructor
      · intro heq
        cases heq
        exact ⟨.inl rfl, hlast⟩
      · rintro ⟨rfl | ⟨hother, -⟩, hsource⟩
        · rfl
        · exact absurd (hlast.trans hsource.symm) hother
    · rw [if_neg hlast, ih]
      constructor
      · rintro ⟨hlatest, rfl⟩
        exact ⟨.inr ⟨hlast, hlatest⟩, rfl⟩
      · rintro ⟨rfl | ⟨-, hlatest⟩, hsource⟩
        · exact absurd hsource hlast
        · exact ⟨hlatest, hsource⟩

theorem mem_targetingAll :
    ref ∈ known.targetingAll ↔ ∃ source, known[ref]? = some source ∧ source.targetsAll = true := by
  rw [targetingAll, List.mem_map]
  constructor
  · rintro ⟨⟨place, source⟩, mem, rfl⟩
    obtain ⟨hentry, htargets⟩ := List.mem_filter.mp mem
    exact ⟨source, Std.ExtTreeMap.mem_toList_iff_getElem?_eq_some.mp hentry, htargets⟩
  · rintro ⟨source, hknown, htargets⟩
    have hentry := Std.ExtTreeMap.mem_toList_iff_getElem?_eq_some.mpr hknown
    exact ⟨(ref, source), List.mem_filter.mpr ⟨hentry, htargets⟩, rfl⟩

theorem nodup_targetingAll (known : KnownSources) : known.targetingAll.Nodup := by
  have hkeys := known.distinct_keys_toList
  have hdistinct : (known.toList.filter fun entry => entry.2.targetsAll).Pairwise
      fun first later => first.1 ≠ later.1 := by
    refine (hkeys.filter _).imp fun hne heq => hne ?_
    rw [heq]
    exact Std.ReflCmp.compare_self
  exact List.pairwise_map.mpr hdistinct

end KnownSources

/-! ## Rounds that list the namespaces -/

/-- A source that goes everywhere is worked on only after a look at which namespaces there are,
be it that the source stays or that it is on its way out. -/
theorem attend_eq_call {source : ClusterConfig} (everywhere : source.targetsAll = true) :
    ∃ next, Cluster.attend (.ok source) = .call .listNamespaces next := by
  have hround : ∃ next, source.round = .call .listNamespaces next := by
    unfold ClusterConfig.round ClusterConfig.cleanup ClusterConfig.apply
    rw [resolve_of_every everywhere]
    split <;> exact ⟨_, rfl⟩
  obtain ⟨next, hround⟩ := hround
  show ∃ next, (source.round.attempt >>= _) = Program.call .listNamespaces next
  rw [hround]
  exact ⟨_, rfl⟩

/-- A round that has looked up its source works on this one to its end. -/
theorem Monitor.fits_fetched {σ : Type} (around : Surroundings σ) {source : ClusterConfig}
    (stays : source.isDeleting = false) :
    Monitor.scope.Fits around (fun _ known _ => known.first = some source)
      fun _ act => act.call? = some .listNamespaces → source.targetsAll = true where
  asked {_ known _ request answer _} hfirst hscope _ := by
    refine ⟨fun hcall => ?_, hscope.first_learn hfirst answer⟩
    obtain rfl := Option.some.inj hcall
    cases hscope with
    | list hfetched himp =>
      cases hfetched.symm.trans hfirst
      exact himp stays
  told _ hfirst := ⟨nofun, hfirst⟩

/-- A round for a source that stays asks which namespaces there are exactly if the source asks for
every namespace. -/
theorem reconcile_lists_iff {σ : Type} {store : Store σ} {state after : σ} {key : ObjectKey}
    {source : ClusterConfig} (found : store.answer (.getSource key) state = (.ok source, after))
    (stays : source.isDeleting = false) :
    StoreCall.listNamespaces ∈ ((reconcile key).acts store state).filterMap Act.call? ↔
      source.targetsAll = true := by
  have hacts : (reconcile key).acts store state =
      .asked state (.getSource key) (.ok source) ::
        (Cluster.attend (.ok source)).acts store after := by
    rw [Cluster.reconcile_eq]
    show Program.acts store (.call (.getSource key) _) state = _
    rw [Program.acts, found]
    rfl
  have hcalls : ((reconcile key).acts store state).filterMap Act.call? =
      .getSource key ::
        ((Cluster.attend (.ok source)).acts store after).filterMap Act.call? := by
    rw [hacts]
    rfl
  rw [hcalls, List.mem_cons, or_iff_right (by nofun)]
  constructor
  · intro mem
    have hattend : (Cluster.attend (.ok source)).Obeys .scope (.of source) :=
      (reconcile_scope key).2 (.ok source)
    have htraces : (Cluster.attend (.ok source)).Traces store.surroundings after fun acts _ _ =>
        ∀ before act later, acts = before ++ act :: later →
          act.call? = some .listNamespaces → source.targetsAll = true :=
      hattend.traces (Monitor.fits_fetched _ stays) rfl
    obtain ⟨act, hact, hcall⟩ := List.mem_filterMap.mp mem
    obtain ⟨before, later, heq⟩ := List.append_of_mem hact
    exact htraces.store before act later heq hcall
  · intro everywhere
    obtain ⟨next, hattend⟩ := attend_eq_call everywhere
    rw [hattend, Program.acts]
    exact List.mem_cons_self

/-- Where the namespaces can be listed, a list of namespaces stands for all of them exactly if it
is the word for every namespace. -/
theorem resolve_all_iff {σ : Type} {store : Store σ} {state : σ} {live : List String}
    (lists : (store.answer .listNamespaces state).1 = .ok live) (raw : String) :
    (∃ target, ((resolve raw).run store state).1 = .ok target ∧ target.all = true) ↔
      NamespaceList.isEvery (NamespaceList.parse raw) = true := by
  cases hevery : NamespaceList.isEvery (NamespaceList.parse raw) with
  | true =>
    rw [resolve_of_every hevery, Program.run]
    dsimp only
    rw [lists]
    exact iff_of_true ⟨_, rfl, rfl⟩ rfl
  | false =>
    rw [resolve_of_explicit hevery]
    refine iff_of_false ?_ Bool.false_ne_true
    rintro ⟨target, hrun, hall⟩
    cases hrun
    cases hall

/-- Those are woken, each once, whose last version has a list that stands for all namespaces where
these can be listed. So a round for a source that stays, as it was seen last, asks which namespaces
there are exactly if the source is woken when one comes up. -/
theorem a_new_namespace_wakes_the_sources_that_go_everywhere {σ : Type} {store : Store σ}
    {state : σ} {live : List String} (lists : (store.answer .listNamespaces state).1 = .ok live)
    (sources : List ClusterConfig) :
    (KnownSources.ofSeen sources).targetingAll.Nodup ∧
    (∀ ref, ref ∈ (KnownSources.ofSeen sources).targetingAll ↔
      ∃ source, IsLatest sources source ∧ source.ref = ref ∧
        ∃ target, ((resolve source.spec.namespaceList).run store state).1 = .ok target ∧
          target.all = true) ∧
    ∀ source, IsLatest sources source → source.isDeleting = false → ∀ key before after,
      store.answer (.getSource key) before = (.ok source, after) →
      (source.ref ∈ (KnownSources.ofSeen sources).targetingAll ↔
        StoreCall.listNamespaces ∈ ((reconcile key).acts store before).filterMap Act.call?) := by
  refine ⟨KnownSources.nodup_targetingAll _, fun ref => ?_, ?_⟩
  · rw [KnownSources.mem_targetingAll]
    refine exists_congr fun source => ?_
    rw [KnownSources.getElem?_ofSeen, resolve_all_iff lists, and_assoc]
    rfl
  · intro source latest stays key before after found
    rw [KnownSources.mem_targetingAll, reconcile_lists_iff found stays]
    constructor
    · rintro ⟨other, hother, everywhere⟩
      have hsource := KnownSources.getElem?_ofSeen.mpr ⟨latest, rfl⟩
      cases hother.symm.trans hsource
      exact everywhere
    · intro everywhere
      exact ⟨source, KnownSources.getElem?_ofSeen.mpr ⟨latest, rfl⟩, everywhere⟩

/-- A source that went everywhere, another one without a namespace that still does, and the first
one again when it goes to some namespaces by name. -/
def ClusterConfig.seenInTurn : List ClusterConfig :=
  [.trial "all", { ClusterConfig.trial " al\tl" with metadata := { name := some "app-config" } },
    (ClusterConfig.trial "all,a").atVersion 1]

/-- Only the other source is woken, and the first one does not ask which namespaces there are. -/
theorem a_source_that_no_longer_goes_everywhere_is_not_woken :
    ⟨none, "app-config"⟩ ∈ (KnownSources.ofSeen ClusterConfig.seenInTurn).targetingAll ∧
    ⟨some "default", "app-config"⟩ ∉
      (KnownSources.ofSeen ClusterConfig.seenInTurn).targetingAll ∧
    StoreCall.listNamespaces ∉ ((reconcile ⟨"default", "app-config"⟩).acts Simulation.store
      { cluster := .trial ["b", "a"] "all,a" }).filterMap Act.call? := by
  have lists : (Simulation.store.answer .listNamespaces
      { cluster := .trial ["b", "a"] "all,a" }).1 = .ok ["b", "a"] := by
    rfl
  obtain ⟨-, hwoken, hasks⟩ := a_new_namespace_wakes_the_sources_that_go_everywhere lists
    ClusterConfig.seenInTurn
  have hasleep : ⟨some "default", "app-config"⟩ ∉
      (KnownSources.ofSeen ClusterConfig.seenInTurn).targetingAll := by
    decide +kernel
  refine ⟨(hwoken _).mpr ?_, hasleep, ?_⟩
  · refine ⟨_, ⟨[.trial "all"], [(ClusterConfig.trial "all,a").atVersion 1], rfl, by decide⟩, rfl,
      ⟨["a", "b"], true⟩, ?_, rfl⟩
    decide +kernel
  · have hlatest : IsLatest ClusterConfig.seenInTurn ((ClusterConfig.trial "all,a").atVersion 1) :=
      ⟨ClusterConfig.seenInTurn.take 2, [], rfl, by simp⟩
    exact fun mem => hasleep ((hasks _ hlatest rfl _ _ _ (by rfl)).mpr mem)

end ConfigFanout
