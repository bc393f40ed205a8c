import ConfigFanout.Proofs.LostUpdates

-- Where the data of a source go while others edit it. A round resolves the targets once, from
-- the source as it was looked up. Most of its writes are refused when the source was edited
-- since, but the one of the status is not: it gives the edited source, and the round goes on
-- with that one's data, and with the targets that it has.
namespace ConfigFanout

namespace Act

/-- The source that is stored under a key when a call is made. -/
def found? (key : ObjectKey) : Act Cluster → Option ClusterConfig
  | .asked cluster _ _ => cluster.sources[key]?
  | .told _ => none

/-- The artifact that a call puts up, or in place of another one. -/
def copy? : Act Cluster → Option ((kind : ArtifactKind) × Artifact kind)
  | .asked _ (.createArtifact kind artifact) _ | .asked _ (.replaceArtifact kind artifact) _ =>
    some ⟨kind, artifact⟩
  | _ => none

/-- Whether a status was written for a source that was edited meanwhile: what comes back asks
for other things than what was sent. -/
def MeetsEdit (spec : ClusterConfigSpec) : Act Cluster → Prop
  | .asked _ (.updateStatus source) (.ok written) => written.spec = spec ∧ source.spec ≠ spec
  | _ => False

end Act

/-- The versions of the source under a key that were stored when some calls were made. -/
def versions (key : ObjectKey) (acts : List (Act Cluster)) : List ClusterConfig :=
  acts.filterMap (Act.found? key)

/-- Whether an artifact is of the kind that a source asks for, with its data. -/
structure ClusterConfig.Fills (source : ClusterConfig) {kind : ArtifactKind}
    (artifact : Artifact kind) : Prop where
  kind_eq : kind = source.spec.kind
  payload_eq : artifact.payload = kind.payload source

/-- The data of an artifact are those of one version of the source, for a namespace that the same
version names. -/
def SentBy (key : ObjectKey) (before : List (Act Cluster)) {kind : ArtifactKind}
    (artifact : Artifact kind) : Prop :=
  ∃ version ∈ versions key before, version.Fills artifact ∧
    version.Names artifact.metadata.key.ns

/-- The data of an artifact are those of an edited version of the source that the write of the
status came upon, for a namespace that it does not name. An earlier version does. -/
def Misdirected (key : ObjectKey) (before : List (Act Cluster)) {kind : ArtifactKind}
    (artifact : Artifact kind) : Prop :=
  ∃ version ∈ versions key before, version.Fills artifact ∧
    ¬ version.Names artifact.metadata.key.ns ∧
    (∃ first ∈ versions key before, first.Names artifact.metadata.key.ns) ∧
    ∃ act ∈ before, act.MeetsEdit version.spec

section

variable {source version : ClusterConfig}

theorem ClusterConfig.names_congr (h : source.spec = version.spec) (ns : String) :
    source.Names ns ↔ version.Names ns := by
  unfold ClusterConfig.Names ClusterConfig.targetsAll
  rw [h]

theorem ArtifactKind.payload_congr (kind : ArtifactKind) (h : source.spec = version.spec) :
    kind.payload source = kind.payload version := by
  unfold ArtifactKind.payload
  rw [h]

theorem mem_versions_append {key : ObjectKey} {past later : List (Act Cluster)}
    (mem : version ∈ versions key past) : version ∈ versions key (past ++ later) := by
  unfold versions
  rw [List.filterMap_append]
  exact List.mem_append_left _ mem

theorem mem_versions_last {key : ObjectKey} {past : List (Act Cluster)} {cluster : Cluster}
    {request : StoreCall} {answer : Except Error request.Answer}
    (hstored : cluster.sources[key]? = some version) :
    version ∈ versions key (past ++ [.asked cluster request answer]) := by
  unfold versions
  rw [List.filterMap_append]
  refine List.mem_append_right _ (List.mem_filterMap.mpr ⟨_, List.mem_singleton_self _, ?_⟩)
  exact hstored

end

/-- What a round works with comes from versions of the source that were stored on the way. The
source at hand is the one that was looked up, as far as it asks for things, unless the write of
a status came upon an edit. -/
structure Knowledge.Founded (key : ObjectKey) (past : List (Act Cluster)) (known : Knowledge) :
    Prop where
  first : ∀ first, known.first = some first → first ∈ versions key past
  hand : ∀ hand, known.hand = some hand → ∃ version ∈ versions key past,
    version.spec = hand.spec
  same : ∀ first hand, known.first = some first → known.hand = some hand →
    hand.spec = first.spec ∨ ∃ act ∈ past, act.MeetsEdit hand.spec

namespace Knowledge.Founded

variable {key : ObjectKey} {past : List (Act Cluster)} {known : Knowledge} {act : Act Cluster}
  {cluster after : Cluster}

theorem start : Founded key [] {} :=
  ⟨by simp, by simp, by simp⟩

/-- Another act may follow, as long as the source at hand goes on asking for the same. -/
theorem later (h : Founded key past known) {next : Knowledge} (hfirst : next.first = known.first)
    (hhand : ∀ hand, next.hand = some hand →
      ∃ earlier, known.hand = some earlier ∧ hand.spec = earlier.spec) :
    Founded key (past ++ [act]) next := by
  constructor
  · intro first hnext
    exact mem_versions_append (h.first first (hfirst ▸ hnext))
  · intro hand hnext
    obtain ⟨earlier, hearlier, hspec⟩ := hhand hand hnext
    obtain ⟨version, mem, hversion⟩ := h.hand earlier hearlier
    exact ⟨version, mem_versions_append mem, hversion.trans hspec.symm⟩
  · intro first hand hnext hnext'
    obtain ⟨earlier, hearlier, hspec⟩ := hhand hand hnext'
    rw [hspec]
    refine (h.same first earlier (hfirst ▸ hnext) hearlier).imp_right ?_
    rintro ⟨other, mem, hedit⟩
    exact ⟨other, List.mem_append_left _ mem, hedit⟩

/-- The status may be written. What comes back asks for what the source asked for that was
stored then, so if that is something new, the write came upon an edit. -/
theorem record (h : Founded key past known) {hand stored : ClusterConfig}
    {status : Option ClusterConfigStatus} (hhand : known.hand = some hand)
    (hstored : cluster.sources[key]? = some stored) {written : ClusterConfig}
    (hwritten : written.spec = stored.spec) :
    Founded key (past ++ [.asked cluster (.updateStatus { hand with status }) (.ok written)])
      { known with hand := some written, seen := none } := by
  constructor
  · intro first hfirst
    exact mem_versions_append (h.first first hfirst)
  · intro next hnext
    cases hnext
    exact ⟨stored, mem_versions_last hstored, hwritten.symm⟩
  · intro first next hfirst hnext
    cases hnext
    by_cases hsame : hand.spec = written.spec
    · rw [← hsame]
      refine (h.same first hand hfirst hhand).imp_right ?_
      rintro ⟨other, mem, hedit⟩
      exact ⟨other, List.mem_append_left _ mem, hedit⟩
    · exact .inr ⟨_, List.mem_append_right _ (List.mem_singleton_self _), rfl, hsame⟩

/-- What a call gives comes from a version that was stored when the call was made. -/
theorem learn (h : Founded key past known) (sound : Sound key known cluster)
    {request : StoreCall} {value : request.Answer} (warranted : Warranted key known request)
    (grants : cluster.Grants request value after) :
    Founded key (past ++ [.asked cluster request (.ok value)])
      (known.learn request (.ok value)) := by
  cases warranted with
  | fetch =>
    cases grants with
    | getSource found =>
      refine ⟨?_, ?_, ?_⟩
      · rintro first ⟨⟩
        exact mem_versions_last found
      · rintro hand ⟨⟩
        exact ⟨_, mem_versions_last found, rfl⟩
      · rintro first hand ⟨⟩ ⟨⟩
        exact .inl rfl
  | record hhand =>
    have hkey := (sound.hand _ hhand).1
    cases grants with
    | @updateStatus source stored hstored =>
      have hfound : cluster.sources[key]? = some stored := hkey ▸ hstored
      exact h.record hhand hfound rfl
  | add hhand | drop hhand =>
    cases grants with
    | updateSource hstored version =>
      refine h.later rfl ?_
      rintro hand ⟨⟩
      exact ⟨_, hhand, rfl⟩
  | list | look | take | create | replace =>
    exact h.later rfl fun hand hnext => ⟨hand, hnext, rfl⟩

theorem learn_error (h : Founded key past known) (request : StoreCall) (error : Error) :
    Founded key (past ++ [act]) (known.learn request (.error error)) := by
  refine h.later (by cases request <;> rfl) fun hand hnext => ⟨hand, ?_, rfl⟩
  rwa [hand_learn_error] at hnext

/-- An artifact is of the kind and with the data of the source at hand, in a namespace of the
source that was looked up. -/
theorem sent_or_misdirected (h : Founded key past known) {first hand : ClusterConfig}
    (hfirst : known.first = some first) (hhand : known.hand = some hand)
    {artifact : Artifact hand.spec.kind} (named : first.Names artifact.metadata.key.ns)
    (hpayload : artifact.payload = hand.spec.kind.payload hand) :
    SentBy key past artifact ∨ Misdirected key past artifact := by
  obtain ⟨version, mem, hspec⟩ := h.hand hand hhand
  have fills : version.Fills artifact := by
    refine ⟨by rw [hspec], ?_⟩
    rw [hpayload]
    exact (ArtifactKind.payload_congr _ hspec).symm
  by_cases hnamed : version.Names artifact.metadata.key.ns
  · exact .inl ⟨version, mem, fills, hnamed⟩
  · refine .inr ⟨version, mem, fills, hnamed, ⟨first, h.first first hfirst, named⟩, ?_⟩
    rw [hspec]
    refine (h.same first hand hfirst hhand).resolve_left fun hsame => hnamed ?_
    exact (ClusterConfig.names_congr (hspec.trans hsame) _).mpr named

/-- Each artifact that a round writes has the data of the source at hand. -/
theorem written (h : Founded key past known) (sound : Sound key known cluster)
    {request : StoreCall} {answer : Except Error request.Answer}
    (warranted : Warranted key known request) {kind : ArtifactKind} {artifact : Artifact kind}
    (hcopy : (Act.asked cluster request answer).copy? = some ⟨kind, artifact⟩) :
    SentBy key past artifact ∨ Misdirected key past artifact := by
  cases warranted with
  | create hfirst hhand named =>
    cases hcopy
    exact h.sent_or_misdirected hfirst hhand named rfl
  | replace hfirst hhand named hseen own hrevise =>
    cases hcopy
    obtain ⟨hkey, -⟩ := Artifact.revise_eq_some _ hrevise
    obtain ⟨labels, hrevised, -⟩ := Artifact.revise_eq_withLabels hrevise
    refine h.sent_or_misdirected hfirst hhand ?_ (hrevised ▸ rfl)
    rw [hkey, (sound.seen _ hseen).1]
    exact named
  | _ => cases hcopy

end Knowledge.Founded

/-- Whatever others write between the calls of a round, and whichever calls fail: each artifact
that it writes has the data of one version of the source for a namespace that this version
names, unless the write of the status came upon an edited version that no longer names it. -/
theorem data_go_where_they_are_sent_unless_the_status_meets_an_edit {may : Refusal → Prop}
    {cluster : Cluster} (key : ObjectKey) (keyed : cluster.WellKeyed) (dated : cluster.Dated) :
    (reconcile key).Traces (Cluster.shared may) cluster fun acts _ _ =>
      ∀ before act later, acts = before ++ act :: later →
        ∀ kind (artifact : Artifact kind), act.copy? = some ⟨kind, artifact⟩ →
          SentBy key before artifact ∨ Misdirected key before artifact := by
  have hfits : (Monitor.round key).Fits (Cluster.shared may)
      (fun past known cluster =>
        Knowledge.Sound key known cluster ∧ Knowledge.Founded key past known)
      fun before act => ∀ kind (artifact : Artifact kind), act.copy? = some ⟨kind, artifact⟩ →
        SentBy key before artifact ∨ Misdirected key before artifact := by
    constructor
    · rintro past known state request answer after ⟨sound, founded⟩ warranted ha
      refine ⟨fun kind artifact => founded.written sound warranted,
        sound.shared warranted ha, ?_⟩
      rcases Cluster.answered_or_left ha with ⟨value, between, rfl, hanswer, -⟩ |
        ⟨error, rfl, -⟩
      · exact founded.learn sound warranted (Cluster.grants_of_answer hanswer)
      · exact founded.learn_error request error
    · rintro past known state event ⟨sound, founded⟩
      refine ⟨fun kind artifact hcopy => ?_, sound, ?_⟩
      · cases hcopy
      · exact founded.later rfl fun hand hnext => ⟨hand, hnext, rfl⟩
  exact (reconcile_obeys key).traces hfits ⟨.start keyed dated, .start⟩

/-- A source that went to one namespace, and is to go to some others with some value. -/
def ClusterConfig.moved (namespaceList value : String) : ClusterConfig where
  metadata := { name := some "app-config", ns := some "default", finalizers := some ["a"] }
  spec := { namespaceList, kind := .configMap, data := {("k", value)} }
  status := some ⟨["a"]⟩

/-- It is sent to one namespace first, and, once its round has taken away the old token, to
another one with another value. -/
def Cluster.resent : Cluster × List (Option ClusterConfig) :=
  (({ namespaces := ["a", "b", "c"] } : Cluster).putSource ⟨"default", "app-config"⟩
    (.moved "b" "open"), [none, none, some ((ClusterConfig.moved "c" "secret").withFinalizers [])])

/-- What the round does then. -/
def Cluster.resentActs : List (Act Cluster) :=
  ((reconcile ⟨"default", "app-config"⟩).acts Cluster.edited Cluster.resent).map
    (Act.view Prod.fst)

/-- The second value ends up in the first namespace, where no version has sent it. -/
theorem data_end_up_where_no_version_sends_them :
    ((reconcile ⟨"default", "app-config"⟩).run Cluster.edited Cluster.resent).1 =
        .ok .awaitChange ∧
      (((reconcile ⟨"default", "app-config"⟩).run Cluster.edited Cluster.resent).2.1.configMaps[
        (⟨"b", "app-config"⟩ : ObjectKey)]?).map Artifact.payload = some {("k", "secret")} ∧
      (∀ version ∈ versions ⟨"default", "app-config"⟩ Cluster.resentActs,
        ¬ (version.Names "b" ∧ version.spec.data = {("k", "secret")})) ∧
      ∀ before act later, Cluster.resentActs = before ++ act :: later →
        ∀ kind (artifact : Artifact kind), act.copy? = some ⟨kind, artifact⟩ →
          SentBy ⟨"default", "app-config"⟩ before artifact ∨
            Misdirected ⟨"default", "app-config"⟩ before artifact := by
  refine ⟨by decide +kernel, by decide +kernel, by decide +kernel, ?_⟩
  exact (@data_go_where_they_are_sent_unless_the_status_meets_an_edit (fun _ => False)
    Cluster.resent.1 ⟨"default", "app-config"⟩
    ((Cluster.keyed_empty _).putSource (.moved "b" "open"))
    ((Cluster.Write.putSource (.moved "b" "open")).dated (Cluster.dated_empty _))).run
    (Cluster.shared_admits_edited _) trivial

end ConfigFanout
