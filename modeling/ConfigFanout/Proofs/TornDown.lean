import ConfigFanout.Proofs.Scope
import ConfigFanout.Proofs.Teardown

-- What the rounds for a source delete in the course of time. They leave alone what belongs to
-- another source, but not what belongs to nobody: an artifact without labels goes too, if it is
-- in a namespace where a list has sent the source, although no round has created or adopted it.
namespace ConfigFanout

/-- Some lists send a source to a namespace: one of them has an entry for it, or for all. -/
def Addressed (lists : List String) (ns : String) : Prop :=
  ∃ raw ∈ lists, ns ∈ NamespaceList.parse raw ∨
    NamespaceList.everyNamespace ∈ NamespaceList.parse raw

/-- What a source goes by comes from some lists: its own list is among them, its finalizers are
entries of them, and they have sent it to the namespaces of its status. -/
structure ClusterConfig.Directed (source : ClusterConfig) (lists : List String) : Prop where
  listed : source.spec.namespaceList ∈ lists
  held : ∀ token ∈ source.metadata.held, ∃ raw ∈ lists, token ∈ NamespaceList.parse raw
  recorded : ∀ ns ∈ source.processed, Addressed lists ns

/-- The artifact that a delete takes away, and where it was. -/
def Act.taken? : Act Cluster → Option Sighting
  | .asked cluster (.deleteArtifact kind place) (.ok _) =>
    (cluster.artifacts kind)[place]?.map fun artifact => ⟨kind, place, artifact⟩
  | _ => none

/-- If a call takes an artifact away, some lists have sent the source under a key there. The
labels of the artifact name that source, or no source, if it is one of some given ones. -/
def Act.Takes (key : ObjectKey) (lists : List String) (given : Sighting → Prop)
    (act : Act Cluster) : Prop :=
  ∀ taken : Sighting, act.taken? = some taken → Addressed lists taken.place.ns ∧
    (taken.artifact.owner? = some key ∨ taken.artifact.owner? = none ∧ given taken)

/-- All artifacts of a cluster that have no labels of a source are some given ones. -/
def Cluster.Spots (cluster : Cluster) (given : Sighting → Prop) : Prop :=
  ∀ spotted : Sighting,
    (cluster.artifacts spotted.kind)[spotted.place]? = some spotted.artifact →
    spotted.artifact.owner? = none → given spotted

theorem ClusterConfig.labelled_newCopy (source : ClusterConfig) (kind : ArtifactKind)
    (name ns : String) : (source.newCopy kind name ns).owner? ≠ none := by
  rw [Artifact.owner?_of_ownerLabels _ rfl]
  simp

theorem Artifact.labelled_of_revise {kind : ArtifactKind} {source : ClusterConfig}
    {artifact revised : Artifact kind} (h : source.revise artifact = some revised) :
    revised.owner? ≠ none := by
  unfold ClusterConfig.revise at h
  by_cases hlabels : artifact.owner?.isNone = true
  · rw [if_pos hlabels] at h
    cases h
    rw [Artifact.owner?_of_ownerLabels _ rfl]
    simp
  · rw [if_neg hlabels] at h
    split at h
    · cases h
    · cases h
      exact fun hnone => hlabels (Option.isNone_iff_eq_none.mpr hnone)

/-- What a round writes has the labels of a source. -/
theorem Cluster.Spots.granted {cluster after : Cluster} {given : Sighting → Prop}
    {key : ObjectKey} {known : Knowledge} {request : StoreCall} {value : request.Answer}
    (h : cluster.Spots given) (warranted : Warranted key known request)
    (grants : cluster.Grants request value after) : after.Spots given := by
  rintro ⟨kind, place, artifact⟩ found unlabelled
  dsimp only at found unlabelled
  refine h _ ?_ unlabelled
  rw [← found]
  refine (grants.artifact_eq fun touches => ?_).symm
  have hput : ∀ {put : Artifact kind} {version : Nat}, put.owner? ≠ none →
      put.atVersion version ≠ artifact := by
    rintro put version labelled rfl
    exact labelled unlabelled
  cases touches with
  | create hplace =>
    cases grants
    rw [artifacts_putArtifact, if_pos hplace] at found
    cases warranted with
    | create =>
      exact hput (ClusterConfig.labelled_newCopy _ _ _ _) (Option.some.inj found)
  | replace hplace =>
    cases grants
    rw [artifacts_putArtifact, if_pos hplace] at found
    cases warranted with
    | replace _ _ _ _ _ hrevise =>
      exact hput (Artifact.labelled_of_revise hrevise) (Option.some.inj found)
  | delete =>
    cases grants
    rw [artifacts_removeArtifact, if_pos rfl] at found
    cases found

namespace Oriented

variable {base : ClusterConfig} {origin cluster after : Cluster} {lists : List String}
  {given : Sighting → Prop} {known : Knowledge × Bearings}

/-- The namespaces that a round may clear are those where the lists have sent the source. -/
theorem addressed_of_cleared (h : Oriented base origin known cluster)
    (directed : base.Directed lists)
    (hands : ∀ hand, known.2.hand = some hand → hand.Directed lists) {first hand : ClusterConfig}
    {target : TargetSet} {ns : String} (hfirst : known.2.first = some first)
    (hhand : known.2.hand = some hand) (aims : known.2.Aims first target)
    (cleared : Cleared known.2 first hand target ns) : Addressed lists ns := by
  obtain ⟨rfl, rfl⟩ := h.target_eq hfirst aims
  cases cleared with
  | stale _ mem => exact directed.recorded ns (NamespaceList.mem_stale.mp mem).1
  | target _ mem => exact ⟨_, directed.listed, NamespaceList.entry_of_mem_target mem⟩
  | guarded _ mem =>
    obtain ⟨raw, listed, hentry⟩ := directed.held ns (List.mem_filter.mp mem).1
    exact ⟨raw, listed, .inl hentry⟩
  | swept _ holds =>
    obtain ⟨raw, listed, hentry⟩ := (hands hand hhand).held _ (List.contains_iff_mem.mp holds)
    exact ⟨raw, listed, .inr hentry⟩

theorem takes (h : Oriented base origin known cluster) (directed : base.Directed lists)
    (hands : ∀ hand, known.2.hand = some hand → hand.Directed lists)
    (spots : cluster.Spots given) {request : StoreCall} {value : request.Answer}
    (warranted : Warranted base.metadata.key known.1 request)
    (inScope : InScope known.2 request) :
    (Act.asked cluster request (.ok value)).Takes base.metadata.key lists given := by
  intro taken htaken
  cases inScope with
  | take kind hfirst hhand aims cleared =>
    have haddressed := h.addressed_of_cleared directed hands hfirst hhand aims cleared
    cases warranted with
    | @take hand ns artifact hknown hseen hother =>
      obtain ⟨-, -, found⟩ := h.current.seen _ hseen
      obtain ⟨alike, -⟩ := h.current.hand hand hknown
      dsimp only [Act.taken?] at htaken
      rw [found, Option.map_some] at htaken
      cases htaken
      rw [artifact.otherOwner?_eq_none, ClusterConfig.key_of_alike alike] at hother
      exact ⟨haddressed, hother.symm.imp_right fun hnone => ⟨hnone, spots _ found hnone⟩⟩
  | _ => cases htaken

/-- A source that a call gives goes by the lists. -/
theorem hands_of_granted (h : Oriented base origin known cluster)
    (stored : origin.sources[base.metadata.key]? = some base) (directed : base.Directed lists)
    (hands : ∀ hand, known.2.hand = some hand → hand.Directed lists) {request : StoreCall}
    {value : request.Answer} (warranted : Warranted base.metadata.key known.1 request)
    (inScope : InScope known.2 request) (ha : cluster.answer request = (.ok value, after)) :
    ∀ hand, (known.2.learn request (.ok value)).hand = some hand → hand.Directed lists := by
  cases inScope with
  | fetch key =>
    intro hand hhand
    have hnext := h.step stored warranted ha
    rw [hnext.first hand hhand]
    exact directed
  | @add first hand target token hfirst hhand aims _ mem =>
    obtain ⟨-, rfl⟩ := h.target_eq hfirst aims
    obtain ⟨-, rfl, -⟩ := h.updateSource_eq hhand ha
    have hdirected := hands hand hhand
    rintro _ ⟨⟩
    refine ⟨hdirected.listed, fun other hother => ?_, hdirected.recorded⟩
    rcases List.mem_append.mp hother with hold | hnew
    · exact hdirected.held other hold
    · rw [List.mem_singleton.mp hnew]
      exact ⟨_, directed.listed, NamespaceList.mem_parse_of_mem_tokens mem⟩
  | @drop first hand target token hfirst hhand =>
    obtain ⟨-, rfl, -⟩ := h.updateSource_eq hhand ha
    have hdirected := hands hand hhand
    rintro _ ⟨⟩
    exact ⟨hdirected.listed, fun other hother => hdirected.held other (List.mem_filter.mp hother).1,
      hdirected.recorded⟩
  | @record first hand target hfirst hhand aims =>
    obtain ⟨-, rfl⟩ := h.target_eq hfirst aims
    obtain ⟨-, rfl, -⟩ := h.updateStatus_eq hhand ha
    have hdirected := hands hand hhand
    rintro _ ⟨⟩
    exact ⟨hdirected.listed, hdirected.held,
      fun ns mem => ⟨_, directed.listed, NamespaceList.entry_of_mem_target mem⟩⟩
  | list | look | create | replace | take => exact hands

end Oriented

/-- The source under a key goes by what some lists say, as long as it is there, and the artifacts
without labels are some given ones. -/
structure Cluster.Directs (cluster : Cluster) (key : ObjectKey) (lists : List String)
    (given : Sighting → Prop) : Prop where
  keyed : cluster.WellKeyed
  stored : ∀ source, cluster.sources[key]? = some source → source.Directed lists
  spots : cluster.Spots given

namespace Cluster

variable {cluster : Cluster} {key : ObjectKey} {lists : List String} {given : Sighting → Prop}
  {may : Refusal → Prop}

theorem traces_of_missing (missing : cluster.sources[key]? = none) :
    (reconcile key).Traces (faulty may) cluster fun acts _ after =>
      after = cluster ∧ ∃ error, acts = [.asked cluster (.getSource key) (.error error)] := by
  have herror : ∀ error : Error, (attend (.error error)).Traces (faulty may) cluster
      fun acts _ after => after = cluster ∧ ∃ found : Error,
        (.asked cluster (.getSource key) (.error error) :: acts : List (Act Cluster)) =
          [.asked cluster (.getSource key) (.error found)] := by
    intro error
    unfold attend
    dsimp only
    split <;> exact ⟨rfl, error, rfl⟩
  rw [reconcile_eq]
  refine (Program.traces_bind _ _).mpr ((Program.traces_attempt _).mpr
    ((Program.traces_ask _).mpr ?_))
  rintro answer after (ha | ⟨refusal, -, rfl, rfl⟩)
  · rw [answer_getSource_missing missing] at ha
    cases ha
    exact herror _
  · exact herror _

/-- A round takes nothing away but what it may, and leaves things so. -/
theorem Directs.round {simulation : Simulation} (h : simulation.cluster.Directs key lists given)
    (undisturbed : simulation.Undisturbed may) :
    (∀ act ∈ simulation.acts (reconcile key), act.Takes key lists given) ∧
      (simulation.reconcile key).2.cluster.Directs key lists given := by
  cases hstored : simulation.cluster.sources[key]? with
  | none =>
    obtain ⟨hsame, error, hacts⟩ := (traces_of_missing hstored).simulate undisturbed
    refine ⟨fun act mem => ?_, ?_⟩
    · rw [hacts, List.mem_singleton] at mem
      subst mem
      exact fun _ htaken => nomatch htaken
    · rw [Simulation.reconcile, hsame]
      exact h
  | some base =>
    have directed := h.stored base hstored
    obtain rfl := h.keyed.sources key base hstored
    obtain ⟨hacts, known, hends, hhands, hspots⟩ := undisturbed.watched h.keyed hstored
      (fun known cluster =>
        (∀ hand, known.2.hand = some hand → hand.Directed lists) ∧ cluster.Spots given)
      (Act.Takes base.metadata.key lists given) ⟨by simp, h.spots⟩
      (fun horiented hkept warranted inScope ha =>
        ⟨horiented.takes directed hkept.1 hkept.2 warranted inScope,
          horiented.hands_of_granted hstored directed hkept.1 warranted inScope ha,
          hkept.2.granted warranted (grants_of_answer ha)⟩)
      (fun request _ hkept =>
        ⟨by cases request <;> exact fun _ htaken => (nomatch htaken), by simpa using hkept⟩)
      (fun _ _ htaken => nomatch htaken)
    refine ⟨hacts, hends.current.keyed, fun source hsource => ?_, hspots⟩
    cases hhand : known.2.hand with
    | none =>
      -- The source was never looked up, so nothing has changed.
      rw [hends.unfetched (hends.hand ▸ hhand)] at hsource
      exact h.stored source hsource
    | some hand =>
      obtain rfl := (hends.stored_eq hhand).2 source hsource
      exact hhands source hhand

end Cluster

/-! ## The course of things -/

/-- Something that happens to a source. -/
inductive Happening where
  /-- A round for the source. The rules say which calls fail. -/
  | round (rules : List (Rule Change))
  /-- The source asks for something else. -/
  | edit (spec : ClusterConfigSpec)
  /-- The end of the source is asked for. -/
  | mark (time : Timestamp)
  /-- Others put an artifact somewhere. -/
  | put (kind : ArtifactKind) (artifact : Artifact kind)

namespace Happening

/-- The cluster after something that happens to the source under a key. -/
def take (key : ObjectKey) (cluster : Cluster) : Happening → Cluster
  | .round rules => (Simulation.reconcile { cluster, rules } key).2.cluster
  | .edit spec =>
    match cluster.sources[key]? with
    | some source => cluster.putSource key { source with spec }
    | none => cluster
  | .mark time => cluster.markDeleting key time
  | .put _ artifact => cluster.putArtifact artifact

/-- The list of namespaces that the source gets, if it gets one. -/
def list? : Happening → Option String
  | .edit spec => some spec.namespaceList
  | .round _ | .mark _ | .put .. => none

/-- Nobody interferes with a round while it goes on. Its calls may fail in any way. -/
def Quiet : Happening → Prop
  | .round rules => ∀ rule ∈ rules, rule.changes = []
  | _ => True

theorem Quiet.undisturbed {rules : List (Rule Change)} (h : (round rules).Quiet)
    (cluster : Cluster) : Simulation.Undisturbed (fun _ => True) { cluster, rules } :=
  ⟨h, fun _ _ _ _ => trivial⟩

end Happening

def Cluster.afterCourse (cluster : Cluster) (key : ObjectKey) (course : List Happening) :
    Cluster :=
  course.foldl (Happening.take key) cluster

/-- An artifact is as it was somewhere at first, or as others have put it there. -/
def Cluster.Bystander (cluster : Cluster) (course : List Happening) (spotted : Sighting) : Prop :=
  (cluster.artifacts spotted.kind)[spotted.place]? = some spotted.artifact ∨
    ∃ (artifact : Artifact spotted.kind) (version : Nat),
      .put spotted.kind artifact ∈ course ∧ artifact.metadata.key = spotted.place ∧
      spotted.artifact = artifact.atVersion version

namespace Cluster

variable {cluster : Cluster} {key : ObjectKey} {lists : List String} {given : Sighting → Prop}

/-- Another version of the source may be put in its place that goes by the lists. -/
theorem Directs.putSource (h : cluster.Directs key lists given) {source edited : ClusterConfig}
    (stored : cluster.sources[key]? = some source)
    (hkey : edited.metadata.key = source.metadata.key) (directed : edited.Directed lists) :
    (cluster.putSource key edited).Directs key lists given := by
  refine ⟨?_, fun found hfound => ?_, ?_⟩
  · rw [← h.keyed.sources key source stored, ← hkey]
    exact h.keyed.putSource edited
  · rw [sources_putSource, if_pos rfl] at hfound
    cases hfound
    exact ⟨directed.listed, directed.held, directed.recorded⟩
  · simp only [Spots, artifacts_putSource]
    exact h.spots

/-- Others may put up what is among the given ones. -/
theorem Directs.putArtifact (h : cluster.Directs key lists given) {kind : ArtifactKind}
    {artifact : Artifact kind}
    (hgiven : given ⟨kind, artifact.metadata.key, artifact.atVersion cluster.nextVersion⟩) :
    (cluster.putArtifact artifact).Directs key lists given := by
  refine ⟨h.keyed.putArtifact artifact, ?_, ?_⟩
  · rw [sources_putArtifact]
    exact h.stored
  · rintro ⟨other, place, spotted⟩ found unlabelled
    by_cases hkind : other = kind
    · subst hkind
      dsimp only at found
      rw [artifacts_putArtifact] at found
      split at found
      · next hplace =>
        cases found
        cases hplace
        exact hgiven
      · exact h.spots _ found unlabelled
    · dsimp only at found
      rw [artifacts_putArtifact_ne _ hkind] at found
      exact h.spots _ found unlabelled

theorem Directs.take (h : cluster.Directs key lists given) {happening : Happening}
    (quiet : happening.Quiet) (listed : ∀ raw, happening.list? = some raw → raw ∈ lists)
    (puts : ∀ kind (artifact : Artifact kind) version, happening = .put kind artifact →
      given ⟨kind, artifact.metadata.key, artifact.atVersion version⟩) :
    (happening.take key cluster).Directs key lists given := by
  cases happening with
  | round rules =>
    have hround := @round key lists given _ { cluster, rules } h (quiet.undisturbed cluster)
    exact hround.2
  | put kind artifact => exact h.putArtifact (puts kind artifact _ rfl)
  | edit spec | mark time =>
    -- The finalizers and the status stay as they are.
    cases hstored : cluster.sources[key]? with
    | none =>
      simp only [Happening.take, markDeleting, hstored]
      exact h
    | some source =>
      have hdirected := h.stored source hstored
      simp only [Happening.take, markDeleting, hstored]
      refine h.putSource hstored rfl ⟨?_, hdirected.held, hdirected.recorded⟩
      first | exact listed _ rfl | exact hdirected.listed

theorem directs_afterCourse {course : List Happening} (h : cluster.Directs key lists given)
    (quiet : ∀ happening ∈ course, happening.Quiet)
    (listed : ∀ happening ∈ course, ∀ raw, happening.list? = some raw → raw ∈ lists)
    (puts : ∀ kind (artifact : Artifact kind) version, .put kind artifact ∈ course →
      given ⟨kind, artifact.metadata.key, artifact.atVersion version⟩) :
    (cluster.afterCourse key course).Directs key lists given := by
  refine List.foldlRecOn (motive := (Directs · key lists given)) course _ h
    fun cluster h happening mem => ?_
  refine h.take (quiet happening mem) (listed happening mem) ?_
  rintro kind artifact version rfl
  exact puts kind artifact version mem

end Cluster

/-- Whatever happens to a source that has neither finalizers nor a status at first, a round for
it takes artifacts away only where its lists have sent it. The labels of each name that source,
or no source at all, if the artifact is still as it was at first or as others have put it
there. -/
theorem only_what_is_its_own_or_nobodys_is_torn_down {cluster : Cluster} {key : ObjectKey}
    {source : ClusterConfig} {course : List Happening} {rules : List (Rule Change)}
    (keyed : cluster.WellKeyed) (stored : cluster.sources[key]? = some source)
    (unheld : source.metadata.held = []) (unrecorded : source.status = none)
    (quiet : ∀ happening ∈ course, happening.Quiet) (last : (Happening.round rules).Quiet) :
    ∀ act ∈ Simulation.acts { cluster := cluster.afterCourse key course, rules } (reconcile key),
      act.Takes key (source.spec.namespaceList :: course.filterMap Happening.list?)
        (cluster.Bystander course) := by
  have hstart : cluster.Directs key
      (source.spec.namespaceList :: course.filterMap Happening.list?)
      (cluster.Bystander course) := by
    refine ⟨keyed, fun found hfound => ?_, fun spotted found _ => .inl found⟩
    obtain rfl := Option.some.inj (stored.symm.trans hfound)
    refine ⟨List.mem_cons_self, ?_, ?_⟩
    · simp [unheld]
    · simp [ClusterConfig.processed, unrecorded]
  have hafter := Cluster.directs_afterCourse hstart quiet
    (fun happening mem raw hraw =>
      List.mem_cons_of_mem _ (List.mem_filterMap.mpr ⟨happening, mem, hraw⟩))
    fun kind artifact version mem => .inr ⟨artifact, version, mem, rfl, rfl⟩
  exact (hafter.round (last.undisturbed _)).1

/-- What a round takes away can be looked for among its acts. -/
theorem exists_taken_of_any {acts : List (Act Cluster)} {sought : Sighting → Bool}
    (h : (acts.any fun act => act.taken?.any sought) = true) :
    ∃ act ∈ acts, ∃ taken, act.taken? = some taken ∧ sought taken = true := by
  obtain ⟨act, mem, hact⟩ := List.any_eq_true.mp h
  exact ⟨act, mem, (Option.any_eq_true _ _).mp hact⟩

/-- A source is worked on, and its end is asked for. -/
def Happening.passing : List Happening :=
  [.round [], .mark Simulation.endOfSources]

/-- What is done in a round after some things happened to a source that was never worked on. -/
def Happening.acts (namespaceList : String) (course : List Happening) : List (Act Cluster) :=
  let cluster := (Cluster.trial ["b"] namespaceList).afterCourse ⟨"default", "app-config"⟩ course
  Simulation.acts { cluster } (reconcile ⟨"default", "app-config"⟩)

/-- The copy that was put up is taken away. -/
theorem a_copy_is_torn_down_where_a_list_has_sent_the_source :
    ∃ act ∈ Happening.acts "b" Happening.passing, ∃ taken, act.taken? = some taken ∧
      taken.artifact.owner? = some ⟨"default", "app-config"⟩ ∧
      Addressed ["b"] taken.place.ns := by
  have hany : (Happening.acts "b" Happening.passing).any (fun act => act.taken?.any fun taken =>
      taken.artifact.owner? = some ⟨"default", "app-config"⟩) = true := by decide +kernel
  obtain ⟨act, mem, taken, htaken, howner⟩ := exists_taken_of_any hany
  have htakes := @only_what_is_its_own_or_nobodys_is_torn_down _ _ _ Happening.passing []
    (Cluster.keyed_trial _ _) (Cluster.fresh_trial ["b"] "b").stored rfl rfl
    (by simp [Happening.passing, Happening.Quiet]) (by simp [Happening.Quiet]) act mem taken htaken
  exact ⟨act, mem, taken, htaken, of_decide_eq_true howner, htakes.1⟩

/-- An artifact with the name of the source and without labels. -/
def Artifact.stray : Artifact .configMap where
  metadata := { name := some "app-config", ns := some "b" }
  parts := {}

/-- No round gets to it before the source ends, because of a namespace that is not there. It is
taken away, although it does not name the source. -/
theorem an_artifact_of_nobody_is_torn_down :
    ∃ (cluster : Cluster) (key : ObjectKey) (source : ClusterConfig) (course : List Happening),
      cluster.WellKeyed ∧ cluster.sources[key]? = some source ∧ source.metadata.held = [] ∧
      source.status = none ∧ (∀ happening ∈ course, happening.Quiet) ∧
      (∀ kind (artifact : Artifact kind), .put kind artifact ∈ course →
        artifact.metadata.key.name = key.name ∧ artifact.owner? = none) ∧
      ∃ act ∈ Simulation.acts { cluster := cluster.afterCourse key course } (reconcile key),
        ∃ taken, act.taken? = some taken ∧ taken.artifact.owner? ≠ some key := by
  have hany : (Happening.acts "a,b" (.put .configMap .stray :: Happening.passing)).any
      (fun act => act.taken?.any fun taken =>
        taken.artifact.owner? ≠ some ⟨"default", "app-config"⟩) = true := by decide +kernel
  obtain ⟨act, mem, taken, htaken, hnot⟩ := exists_taken_of_any hany
  refine ⟨Cluster.trial ["b"] "a,b", ⟨"default", "app-config"⟩, _,
    .put .configMap .stray :: Happening.passing, Cluster.keyed_trial _ _,
    (Cluster.fresh_trial ["b"] "a,b").stored, rfl, rfl,
    by simp [Happening.passing, Happening.Quiet], ?_,
    act, mem, taken, htaken, of_decide_eq_true hnot⟩
  intro kind artifact hput
  rcases List.mem_cons.mp hput with heq | hput
  · cases heq
    exact ⟨by decide, by decide +kernel⟩
  · simp [Happening.passing] at hput

end ConfigFanout
