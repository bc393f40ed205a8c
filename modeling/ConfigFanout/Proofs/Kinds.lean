import ConfigFanout.Proofs.Isolation
import ConfigFanout.Proofs.Retry
import ConfigFanout.Proofs.Staleness
import ConfigFanout.Proofs.Teardown

-- Sources that change the kind of their artifacts. Every round looks at one kind only, the one
-- that is declared then, and so does the one that takes the source down.
namespace ConfigFanout

/-- Something that happens to a source whose list of namespaces stays as it is. -/
inductive Stage where
  /-- A round for the source. No call is refused. -/
  | round
  /-- A new kind and new data for the source. -/
  | declare (kind : ArtifactKind) (data : TextMap String)

/-- The cluster after a stage of the source under a key. -/
def Stage.take (key : ObjectKey) (cluster : Cluster) : Stage → Cluster
  | .round => (Simulation.reconcile { cluster } key).2.cluster
  | .declare kind data =>
    match cluster.sources[key]? with
    | some source => cluster.putSource key { source with spec := { source.spec with kind, data } }
    | none => cluster

def Cluster.afterStages (cluster : Cluster) (key : ObjectKey) (stages : List Stage) : Cluster :=
  stages.foldl (Stage.take key) cluster

/-- Among some stages is a round that the source goes through with a kind and that ends in some
way. -/
inductive Stage.Works (key : ObjectKey) (kind : ArtifactKind)
    (ends : Except Error Action → Prop) : Cluster → List Stage → Prop
  | here {cluster : Cluster} {source : ClusterConfig} {rest : List Stage} :
    cluster.sources[key]? = some source → source.spec.kind = kind →
    ends (Simulation.reconcile { cluster } key).1 → Works key kind ends cluster (.round :: rest)
  | later {cluster : Cluster} {stage : Stage} {rest : List Stage} :
    Works key kind ends (stage.take key cluster) rest → Works key kind ends cluster (stage :: rest)

namespace Holdings

variable {base : ClusterConfig} {start left : Holdings base.spec.kind} {target : TargetSet}

/-- Where nothing is stale, a round takes no copy away, and new ones are in its target. -/
theorem Partway.bears (h : start.Partway target left) (hstale : start.stale target = [])
    (ns : String) :
    (start.Bears ns → left.Bears ns) ∧
      (left.Bears ns → start.Bears ns ∨ ns ∈ target.namespaces) := by
  have houtside : ns ∉ target.namespaces → left.copies ns = start.copies ns := by
    intro mem
    refine (h.outside ns mem).resolve_right fun hreached => ?_
    rw [hstale] at hreached
    exact List.not_mem_nil hreached.1
  by_cases mem : ns ∈ target.namespaces
  · refine ⟨?_, fun _ => .inr mem⟩
    rintro ⟨copy, hcopy, howner⟩
    rcases h.inside ns mem with hsame | hupdated
    · exact ⟨copy, hsame.trans hcopy, howner⟩
    · refine ⟨_, hupdated, (upToDate_carries ns fun old hold => ?_).1⟩
      obtain rfl := Option.some.inj (hcopy.symm.trans hold)
      exact (Artifact.otherOwner?_eq_none copy).mpr (.inr howner)
  · unfold Bears
    rw [houtside mem]
    exact ⟨id, .inl⟩

end Holdings

namespace Cluster

variable {source : ClusterConfig} {cluster : Cluster} {key : ObjectKey} {kind : ArtifactKind}

/-! ## The run before the end -/

/-- What a run of a source that stays keeps, as long as its list of namespaces does: the source
has its name, its status names no other namespaces than the list, and artifacts labelled for it
bear its name and are in namespaces of the list, whichever their kind. -/
structure Steady (cluster : Cluster) (key : ObjectKey) (source : ClusterConfig) : Prop where
  keyed : cluster.WellKeyed
  stored : ∃ current, cluster.sources[key]? = some current ∧
    current.isDeleting = false ∧ current.metadata.name = source.metadata.name ∧
    current.spec.namespaceList = source.spec.namespaceList ∧
    ∀ ns ∈ current.processed, ns ∈ NamespaceList.parse source.spec.namespaceList
  placed : ∀ kind (place : ObjectKey) (artifact : Artifact kind),
    (cluster.artifacts kind)[place]? = some artifact → artifact.owner? = some key →
    source.metadata.name = some place.name ∧
      place.ns ∈ NamespaceList.parse source.spec.namespaceList

theorem Steady.orderly (h : cluster.Steady key source) {current : ClusterConfig}
    (stored : cluster.sources[key]? = some current) :
    cluster.Orderly key current.spec.kind := by
  obtain ⟨found, hfound, stays, hname, -⟩ := h.stored
  obtain rfl := Option.some.inj (hfound.symm.trans stored)
  obtain rfl := h.keyed.sources key found hfound
  refine ⟨h.keyed, ⟨found, stored, stays, rfl⟩, fun place artifact found howner => ?_⟩
  have hplace := hname.trans (h.placed _ place artifact found howner).1
  simp [Metadata.key, Metadata.anyName, hplace]

theorem Steady.placed_of_labelled (h : cluster.Steady key source) {ns : String}
    (labelled : cluster.Labelled kind key ns) :
    ns ∈ NamespaceList.parse source.spec.namespaceList := by
  obtain ⟨name, artifact, found, howner⟩ := labelled
  exact (h.placed kind ⟨ns, name⟩ artifact found howner).2

variable (explicit : NamespaceList.isEvery (NamespaceList.parse source.spec.namespaceList) = false)

include explicit in
/-- What a round for a steady source comes to: nothing is stale, so it only brings copies up to
date. -/
theorem Steady.round_reaches (h : cluster.Steady key source) :
    ∃ (base : ClusterConfig) (next : Holdings base.spec.kind),
      cluster.sources[key]? = some base ∧ base.metadata.key = key ∧
      Confined base cluster (Stage.round.take key cluster) ∧
      cluster.Reaches base next (Stage.round.take key cluster) ∧
      (cluster.holdings base).Partway
        ⟨NamespaceList.parse source.spec.namespaceList, false⟩ next ∧
      (cluster.holdings base).stale
        ⟨NamespaceList.parse source.spec.namespaceList, false⟩ = [] ∧
      ((∃ action, (Simulation.reconcile { cluster } key).1 = .ok action) →
        ∀ ns ∈ NamespaceList.parse source.spec.namespaceList, next.Bears ns) := by
  obtain ⟨base, stored, stays, -, hlist, hprocessed⟩ := h.stored
  obtain rfl := h.keyed.sources key base stored
  have htarget : NamespaceList.target base.spec.namespaceList cluster.namespaces =
      ⟨NamespaceList.parse source.spec.namespaceList, false⟩ := by
    rw [hlist, NamespaceList.target_of_explicit explicit]
  have hstale : (cluster.holdings base).stale
      ⟨NamespaceList.parse source.spec.namespaceList, false⟩ = [] := by
    refine List.eq_nil_iff_forall_not_mem.mpr fun ns mem => ?_
    rw [Holdings.stale, Holdings.processed_holdings stored, NamespaceList.mem_stale] at mem
    exact mem.2 (hprocessed ns mem.1)
  have undisturbed := Simulation.undisturbed_without_rules cluster
  have hconfined := undisturbed.reconcile_leaves (confined_ensures h.keyed stored)
  obtain ⟨next, hreaches, hnext⟩ := @WellKeyed.round base cluster h.keyed stored stays [] (by simp)
  rw [htarget] at hnext
  refine ⟨base, next, stored, rfl, hconfined, hreaches, ?_, hstale, ?_⟩
  · rcases hnext with ⟨-, rfl, hfeasible⟩ | ⟨-, hinterrupted⟩
    · exact Holdings.partway_once hfeasible
    · exact hinterrupted.partway
  · rintro ⟨action, hok⟩ ns mem
    rcases hnext with ⟨-, rfl, hfeasible⟩ | ⟨⟨error, herror⟩, -⟩
    · exact (Holdings.bears_finished hfeasible).mpr (.inl mem)
    · rw [herror] at hok
      cases hok

include explicit in
/-- A round keeps a source steady. -/
theorem Steady.round (h : cluster.Steady key source) :
    (Stage.round.take key cluster).Steady key source := by
  obtain ⟨base, next, stored, rfl, hconfined, hreaches, hpartway, hstale, -⟩ :=
    h.round_reaches explicit
  obtain ⟨found, hfound, stays, hname, hlist, hprocessed⟩ := h.stored
  obtain rfl := Option.some.inj (hfound.symm.trans stored)
  obtain ⟨final, hfinal, alike⟩ := hreaches.stays
  refine ⟨hreaches.keyed, ⟨final, hfinal, ?_, ?_, ?_, fun ns mem => ?_⟩, ?_⟩
  · exact (ClusterConfig.deleting_of_alike alike).trans stays
  · rw [ClusterConfig.name_of_alike alike, hname]
  · rw [ClusterConfig.spec_of_alike alike, hlist]
  · rw [← Holdings.processed_holdings hfinal, hreaches.holds] at mem
    rcases hpartway.status with hsame | hrecorded
    · rw [Holdings.processed_congr hsame, Holdings.processed_holdings stored] at mem
      exact hprocessed ns mem
    · rw [Holdings.processed, hrecorded] at mem
      exact mem
  · intro kind place artifact hartifact howner
    by_cases hkind : kind = found.spec.kind
    · subst hkind
      by_cases hplace : found.metadata.name = some place.name
      · refine ⟨hname ▸ hplace, ?_⟩
        -- The artifact is a copy, and was one before or is in a namespace of the list.
        have hbears : next.Bears place.ns := by
          rw [← hreaches.holds, ← (hreaches.orderly stays (h.orderly stored)).labelled_iff]
          exact ⟨place.name, artifact, hartifact, howner⟩
        refine ((hpartway.bears hstale place.ns).2 hbears).elim (fun hbefore => ?_) id
        exact h.placed_of_labelled ((h.orderly stored).labelled_iff.mpr hbefore)
      · rw [hconfined.names place hplace] at hartifact
        exact h.placed _ place artifact hartifact howner
    · rw [hconfined.kinds kind hkind] at hartifact
      exact h.placed kind place artifact hartifact howner

include explicit in
/-- A round takes no labelled artifact away. New ones are of the kind that the source has, and
there is one in every namespace of the list if it succeeds. -/
theorem Steady.labelled_round (h : cluster.Steady key source) {current : ClusterConfig}
    (stored : cluster.sources[key]? = some current) :
    (∀ kind ns, cluster.Labelled kind key ns →
      (Stage.round.take key cluster).Labelled kind key ns) ∧
    (∀ kind ns, (Stage.round.take key cluster).Labelled kind key ns →
      cluster.Labelled kind key ns ∨ current.spec.kind = kind) ∧
    ((∃ action, (Simulation.reconcile { cluster } key).1 = .ok action) →
      ∀ ns ∈ NamespaceList.parse source.spec.namespaceList,
        (Stage.round.take key cluster).Labelled current.spec.kind key ns) := by
  obtain ⟨base, next, hbase, rfl, hconfined, hreaches, hpartway, hstale, hdone⟩ :=
    h.round_reaches explicit
  obtain rfl := Option.some.inj (hbase.symm.trans stored)
  have hbefore := h.orderly stored
  obtain ⟨found, hfound, stays, -⟩ := h.stored
  obtain rfl := Option.some.inj (hfound.symm.trans stored)
  have hafter := hreaches.orderly stays hbefore
  refine ⟨fun kind ns labelled => ?_, fun kind ns labelled => ?_, fun hok ns mem => ?_⟩
  · by_cases hkind : kind = found.spec.kind
    · subst hkind
      rw [hbefore.labelled_iff] at labelled
      rw [hafter.labelled_iff, hreaches.holds]
      exact (hpartway.bears hstale ns).1 labelled
    · unfold Labelled
      rw [hconfined.kinds kind hkind]
      exact labelled
  · by_cases hkind : kind = found.spec.kind
    · exact .inr hkind.symm
    · unfold Labelled at labelled
      rw [hconfined.kinds kind hkind] at labelled
      exact .inl labelled
  · rw [hafter.labelled_iff, hreaches.holds]
    exact hdone hok ns mem

theorem artifacts_declare (key : ObjectKey) (cluster : Cluster) (declared : ArtifactKind)
    (data : TextMap String) (kind : ArtifactKind) :
    ((Stage.declare declared data).take key cluster).artifacts kind = cluster.artifacts kind := by
  simp only [Stage.take]
  split
  · exact artifacts_putSource ..
  · rfl

theorem Steady.declare (h : cluster.Steady key source) (kind : ArtifactKind)
    (data : TextMap String) : ((Stage.declare kind data).take key cluster).Steady key source := by
  obtain ⟨current, stored, stays, hname, hlist, hprocessed⟩ := h.stored
  obtain rfl := h.keyed.sources key current stored
  refine ⟨?_, ?_, fun other => ?_⟩
  · simp only [Stage.take, stored]
    exact h.keyed.putSource { current with spec := { current.spec with kind, data } }
  · simp only [Stage.take, stored]
    exact ⟨_, (sources_putSource ..).trans (if_pos rfl), stays, hname, hlist, hprocessed⟩
  · rw [artifacts_declare]
    exact h.placed other

include explicit in
theorem Steady.take (h : cluster.Steady key source) (stage : Stage) :
    (stage.take key cluster).Steady key source := by
  cases stage with
  | round => exact h.round explicit
  | declare kind data => exact h.declare kind data

include explicit in
theorem steady_afterStages (h : cluster.Steady key source) (stages : List Stage) :
    (cluster.afterStages key stages).Steady key source := by
  refine List.foldlRecOn (motive := (Steady · key source)) stages _ h fun cluster h stage _ => ?_
  exact h.take explicit stage

include explicit in
/-- Labelled artifacts of a kind are there if some round of the source with that kind worked on
it, and are everywhere on the list if one succeeded. None goes while the source stays. -/
theorem Steady.labelled_afterStages (h : cluster.Steady key source) (stages : List Stage) :
    (∀ ns, cluster.Labelled kind key ns → (cluster.afterStages key stages).Labelled kind key ns) ∧
    (∀ ns, (cluster.afterStages key stages).Labelled kind key ns →
      cluster.Labelled kind key ns ∨ Stage.Works key kind (fun _ => True) cluster stages) ∧
    (Stage.Works key kind (fun result => ∃ action, result = .ok action) cluster stages →
      ∀ ns ∈ NamespaceList.parse source.spec.namespaceList,
        (cluster.afterStages key stages).Labelled kind key ns) := by
  induction stages generalizing cluster with
  | nil => exact ⟨fun _ => id, fun _ => .inl, fun hworks => nomatch hworks⟩
  | cons stage rest ih =>
    obtain ⟨hstays, hnew, hdone⟩ := ih (h.take explicit stage)
    cases stage with
    | round =>
      obtain ⟨current, stored, -⟩ := h.stored
      obtain ⟨hkept, hfrom, hsucceeds⟩ := h.labelled_round explicit stored
      refine ⟨fun ns labelled => hstays ns (hkept kind ns labelled), fun ns labelled => ?_,
        fun hworks => ?_⟩
      · refine (hnew ns labelled).elim (fun hafter => ?_) fun hlater => .inr (.later hlater)
        exact (hfrom kind ns hafter).imp_right fun hkind => .here stored hkind trivial
      · cases hworks with
        | here hfound hkind hends =>
          obtain rfl := Option.some.inj (hfound.symm.trans stored)
          exact fun ns mem => hstays ns (hkind ▸ hsucceeds hends ns mem)
        | later hlater => exact hdone hlater
    | declare declared data =>
      unfold Labelled at hstays hnew ⊢
      rw [artifacts_declare] at hstays hnew
      refine ⟨hstays, fun ns labelled => (hnew ns labelled).imp_right .later, fun hworks => ?_⟩
      cases hworks with
      | later hlater => exact hdone hlater

/-! ## The end -/

/-- What rounds for a source on its way out leave alone: it keeps its kind, and they take away
artifacts of that kind only, and put up none. -/
structure Dwindles (before : Cluster) (key : ObjectKey) (kind : ArtifactKind)
    (cluster : Cluster) : Prop where
  leaves : ∀ current, cluster.sources[key]? = some current →
    current.isDeleting = true ∧ current.spec.kind = kind
  others : ∀ other, other ≠ kind → cluster.artifacts other = before.artifacts other
  fewer : ∀ (place : ObjectKey) (artifact : Artifact kind),
    (cluster.artifacts kind)[place]? = some artifact →
    (before.artifacts kind)[place]? = some artifact

theorem Dwindles.start (leaves : ∀ current, cluster.sources[key]? = some current →
    current.isDeleting = true ∧ current.spec.kind = kind) : Dwindles cluster key kind cluster :=
  ⟨leaves, fun _ _ => rfl, fun _ _ => id⟩

theorem lastsCleanup_dwindles (before : Cluster) (key : ObjectKey) (kind : ArtifactKind) :
    LastsCleanup fun source cluster => (source.isDeleting = true ∧ source.spec.kind = kind) ∧
      Dwindles before key kind cluster where
  finalizers finalizers hkept _ := by
    obtain ⟨hsource, h⟩ := hkept
    refine ⟨hsource, fun current hcurrent => ?_, fun other hne => ?_,
      fun place artifact hfound => ?_⟩
    · rw [sources_replaceSource] at hcurrent
      split at hcurrent
      · split at hcurrent
        · cases hcurrent
        · cases hcurrent
          exact hsource
      · exact h.leaves current hcurrent
    · rw [artifacts_replaceSource, h.others other hne]
    · rw [artifacts_replaceSource] at hfound
      exact h.fewer place artifact hfound
  removal hkept _ _ _ := by
    obtain ⟨⟨leaves, rfl⟩, h⟩ := hkept
    refine ⟨⟨leaves, rfl⟩, fun current hcurrent => ?_, fun other hne => ?_,
      fun place artifact hfound => ?_⟩
    · rw [sources_removeArtifact] at hcurrent
      exact h.leaves current hcurrent
    · rw [artifacts_removeArtifact_ne _ hne, h.others other hne]
    · rw [artifacts_removeArtifact] at hfound
      split at hfound
      · cases hfound
      · exact h.fewer place artifact hfound

theorem Dwindles.round {before : Cluster} (h : Dwindles before key kind cluster) :
    Dwindles before key kind (Stage.round.take key cluster) := by
  have undisturbed := Simulation.undisturbed_without_rules cluster
  cases hstored : cluster.sources[key]? with
  | none =>
    have hsame : Stage.round.take key cluster = cluster :=
      undisturbed.reconcile_leaves (reconcile_of_missing hstored)
    rwa [hsame]
  | some current =>
    have hcurrent := h.leaves current hstored
    refine undisturbed.reconcile_leaves (((lastsCleanup_dwindles before key kind).reconcile_ensures
      hstored hcurrent.1 ⟨hcurrent, h⟩).mono ?_ ?_)
    · exact fun _ after ⟨_, hboth⟩ => hboth.2
    · exact fun _ after ⟨_, hboth⟩ => hboth.2

theorem Dwindles.rounds {before : Cluster} (h : Dwindles before key kind cluster) (n : Nat) :
    Dwindles before key kind (cluster.afterStages key (List.replicate n .round)) := by
  induction n generalizing cluster with
  | zero => exact h
  | succ n ih => exact ih h.round

theorem Dwindles.labelled {before : Cluster} (h : Dwindles before key kind cluster) {ns : String}
    (labelled : cluster.Labelled kind key ns) : before.Labelled kind key ns := by
  obtain ⟨name, artifact, found, howner⟩ := labelled
  exact ⟨name, artifact, h.fewer _ artifact found, howner⟩

theorem dwindles_markDeleting (stored : cluster.sources[key]? = some source) (time : Timestamp) :
    Dwindles (cluster.markDeleting key time) key source.spec.kind
      (cluster.markDeleting key time) := by
  refine .start fun current hcurrent => ?_
  rw [sources_markDeleting stored] at hcurrent
  cases hcurrent
  exact ⟨rfl, rfl⟩

include explicit in
/-- The first round at the end of a source goes through its whole list, so it leaves no labelled
artifact of the kind that is declared then. -/
theorem Steady.unlabelled_ended (h : cluster.Steady key source) {current : ClusterConfig}
    (stored : cluster.sources[key]? = some current) (time : Timestamp) (ns : String) :
    ¬ (cluster.ended key time).2.cluster.Labelled current.spec.kind key ns := by
  rintro ⟨name, artifact, found, howner⟩
  have hbefore := (dwindles_markDeleting stored time).round.fewer _ _ found
  rw [artifacts_markDeleting] at hbefore
  obtain ⟨hplaced, mem⟩ := h.placed _ _ artifact hbefore howner
  obtain ⟨same, hsame, -, hsameName, hlist, -⟩ := h.stored
  obtain rfl := Option.some.inj (hsame.symm.trans stored)
  obtain rfl := h.keyed.sources key same hsame
  have hname : same.metadata.name = some name := hsameName.trans hplaced
  have named : same.Named := ⟨name, by rw [ClusterConfig.requireName, hname]⟩
  obtain ⟨-, gone, hdeparting⟩ := h.keyed.ended hsame named time
  obtain rfl : same.metadata.anyName = name := by simp [Metadata.anyName, hname]
  have hbears := (hdeparting.bears_iff ns).mp
    ⟨artifact.sansVersion, congrArg (Option.map Artifact.sansVersion) found, howner⟩
  refine hbears.2 (ClusterConfig.copy_mem_undoings rfl ?_)
  rw [hlist, NamespaceList.target_of_explicit explicit]
  exact mem

end Cluster

/-- A source on its way out takes all artifacts with it that are labelled for it and are of the
kind that was declared last. Those of the other kind stay as they are: none, if no round worked
on it while that kind was declared, and one in every namespace of the list, if one succeeded. -/
theorem a_teardown_takes_the_kind_declared_last {cluster : Cluster} {key : ObjectKey}
    {source last : ClusterConfig} {stages : List Stage} (time : Timestamp) (n : Nat)
    (keyed : cluster.WellKeyed) (stored : cluster.sources[key]? = some source)
    (stays : source.isDeleting = false) (status : source.status = none)
    (unlabelled : ∀ kind ns, ¬ cluster.Labelled kind key ns)
    (explicit : NamespaceList.isEvery (NamespaceList.parse source.spec.namespaceList) = false)
    (final : (cluster.afterStages key stages).sources[key]? = some last) :
    let before := cluster.afterStages key stages
    let after := (before.markDeleting key time).afterStages key (List.replicate (n + 1) .round)
    (∀ ns, ¬ after.Labelled last.spec.kind key ns) ∧
    ∀ kind, kind ≠ last.spec.kind →
      (∀ ns, after.Labelled kind key ns ↔ before.Labelled kind key ns) ∧
      (¬ Stage.Works key kind (fun _ => True) cluster stages →
        ∀ ns, ¬ after.Labelled kind key ns) ∧
      (Stage.Works key kind (fun result => ∃ action, result = .ok action) cluster stages →
        ∀ ns, after.Labelled kind key ns ↔
          ns ∈ NamespaceList.parse source.spec.namespaceList) := by
  intro before after
  have hstart : cluster.Steady key source := by
    refine ⟨keyed, ⟨source, stored, stays, rfl, rfl, ?_⟩,
      fun kind place artifact found howner => ?_⟩
    · rw [ClusterConfig.processed, status]
      exact fun _ mem => absurd mem List.not_mem_nil
    · exact absurd ⟨place.name, artifact, found, howner⟩ (unlabelled kind place.ns)
  have hsteady : before.Steady key source := Cluster.steady_afterStages explicit hstart stages
  have hmarked := Cluster.dwindles_markDeleting final time
  have hall : Cluster.Dwindles (before.markDeleting key time) key last.spec.kind after :=
    hmarked.rounds (n + 1)
  constructor
  · -- What is left at the end was left by the first of the rounds.
    intro ns labelled
    have hfirst := (Cluster.Dwindles.start hmarked.round.leaves).rounds n
    exact hsteady.unlabelled_ended explicit final time ns (hfirst.labelled labelled)
  · intro kind hkind
    have hsame : after.artifacts kind = before.artifacts kind := by
      rw [hall.others kind hkind, Cluster.artifacts_markDeleting]
    have hiff : ∀ ns, after.Labelled kind key ns ↔ before.Labelled kind key ns := by
      intro ns
      unfold Cluster.Labelled
      rw [hsame]
    obtain ⟨-, hnew, hdone⟩ := hstart.labelled_afterStages explicit stages
    refine ⟨hiff, fun hidle ns labelled => ?_, fun hworks ns => ?_⟩
    · exact (hnew ns ((hiff ns).mp labelled)).elim (unlabelled kind ns) hidle
    · rw [hiff]
      exact ⟨hsteady.placed_of_labelled, hdone hworks ns⟩

/-- The stages of a source that was copied into ConfigMaps first and into Secrets later. -/
def Stage.converting : List Stage :=
  [.round, .declare .secret {("k", "v")}, .round]

/-- A source that was copied into ConfigMaps and then into Secrets is gone after a single round
at its end, and so are the Secrets. The ConfigMaps are left. -/
theorem a_copy_of_a_former_kind_is_left :
    (((Cluster.trial ["a"] "a").afterStages ⟨"default", "app-config"⟩
        Stage.converting).ended ⟨"default", "app-config"⟩
        Simulation.endOfSources).2.cluster.sources[(⟨"default", "app-config"⟩ : ObjectKey)]? =
          none ∧
      (∀ ns, ¬ (((Cluster.trial ["a"] "a").afterStages ⟨"default", "app-config"⟩
        Stage.converting).ended ⟨"default", "app-config"⟩
        Simulation.endOfSources).2.cluster.Labelled .secret ⟨"default", "app-config"⟩ ns) ∧
      (((Cluster.trial ["a"] "a").afterStages ⟨"default", "app-config"⟩
        Stage.converting).ended ⟨"default", "app-config"⟩
        Simulation.endOfSources).2.cluster.Labelled .configMap ⟨"default", "app-config"⟩ "a" := by
  have hkind : (((Cluster.trial ["a"] "a").afterStages ⟨"default", "app-config"⟩
      Stage.converting).sources[(⟨"default", "app-config"⟩ : ObjectKey)]?).map (·.spec.kind) =
        some .secret := by decide +kernel
  obtain ⟨last, final, hlast⟩ := Option.map_eq_some_iff.mp hkind
  obtain ⟨hgone, hothers⟩ := a_teardown_takes_the_kind_declared_last Simulation.endOfSources 0
    (Cluster.keyed_trial _ _) (Cluster.fresh_trial _ _).stored rfl rfl
    (Cluster.unlabelled_trial _ _ · _) (by decide +kernel) final
  rw [hlast] at hgone hothers
  refine ⟨by decide +kernel, hgone, ?_⟩
  refine ((hothers .configMap (by decide)).2.2 ?_ "a").mpr (by decide +kernel)
  exact .here (Cluster.fresh_trial _ _).stored rfl ⟨.awaitChange, by decide +kernel⟩

end ConfigFanout
