import ConfigFanout.Proofs.Tandem

-- What two rounds for different sources do to the artifacts of each other. To replace an
-- artifact takes the version that was seen, so what the other round has written since is safe.
-- To delete one takes its place only, so a round may delete what it saw without labels, although
-- the other round has adopted it since.
namespace ConfigFanout

/-- The source that the labels of an artifact name, when a call takes effect on it: one that
puts another artifact in its place, or deletes it. -/
def Act.struck? : Act Cluster → Option ObjectKey
  | .asked cluster (.replaceArtifact kind revised) (.ok _) =>
    (cluster.artifacts kind)[revised.metadata.key]?.bind Artifact.owner?
  | .asked cluster (.deleteArtifact kind place) (.ok _) =>
    (cluster.artifacts kind)[place]?.bind Artifact.owner?
  | _ => none

/-- One of two rounds has replaced an artifact without labels by one with the labels of its
source. -/
def Adopts (keys : Side → ObjectKey) (side : Side) (entries : List (Side × Act Cluster))
    {kind : ArtifactKind} (place : ObjectKey) (copy : Artifact kind) : Prop :=
  copy.owner? = none ∧ ∃ cluster revised written,
    (side, .asked cluster (.replaceArtifact kind revised) (.ok written)) ∈ entries ∧
    (cluster.artifacts kind)[place]? = some copy ∧ revised.metadata.key = place ∧
    revised.owner? = some (keys side)

/-- One of two rounds deletes what the other one has adopted meanwhile. It had seen it without
labels just before: since then it has made no call. -/
def Overtaken (keys : Side → ObjectKey) (before : List (Side × Act Cluster)) :
    Side × Act Cluster → Prop
  | (side, .asked _ (.deleteArtifact kind place) _) => ∃ earlier cluster copy between,
    before = earlier ++ (side, .asked cluster (.getArtifact kind place) (.ok copy)) :: between ∧
    (∀ entry ∈ between, entry.1 = side → entry.2.call? = none) ∧
    Adopts keys side.other between place copy
  | _ => False

/-- What may have become of an artifact that one of two rounds has seen, while only the other
one made calls. -/
inductive Since (keys : Side → ObjectKey) (side : Side) (between : List (Side × Act Cluster))
    (sighting : Sighting) (other : Knowledge) (cluster : Cluster) : Prop
  /-- It is still there. -/
  | kept : (cluster.artifacts sighting.kind)[sighting.place]? = some sighting.artifact →
    Since keys side between sighting other cluster
  /-- It was deleted, in a namespace to which the other round does not write any more. -/
  | gone : (cluster.artifacts sighting.kind)[sighting.place]? = none →
    sighting.place.ns ∈ other.cleared → Since keys side between sighting other cluster
  /-- It was adopted. -/
  | adopted : Adopts keys side.other between sighting.place sighting.artifact →
    Since keys side between sighting other cluster
  /-- It belonged to the source of the other round all along. -/
  | foreign : sighting.artifact.owner? = some (keys side.other) →
    Since keys side between sighting other cluster

theorem Adopts.append {keys : Side → ObjectKey} {side : Side}
    {entries : List (Side × Act Cluster)} {kind : ArtifactKind} {place : ObjectKey}
    {copy : Artifact kind} (h : Adopts keys side entries place copy)
    (later : List (Side × Act Cluster)) : Adopts keys side (entries ++ later) place copy := by
  obtain ⟨unlabelled, cluster, revised, written, mem, hrest⟩ := h
  exact ⟨unlabelled, cluster, revised, written, List.mem_append_left _ mem, hrest⟩

/-- A revision of an artifact without labels adopts it. -/
theorem Artifact.owner?_of_revise {kind : ArtifactKind} {artifact revised : Artifact kind}
    {source : ClusterConfig} (unlabelled : artifact.owner? = none)
    (h : source.revise artifact = some revised) :
    revised.owner? = some source.metadata.key := by
  unfold ClusterConfig.revise at h
  rw [unlabelled] at h
  cases h
  exact Artifact.owner?_of_ownerLabels _ rfl

theorem Knowledge.mem_cleared_learn {known : Knowledge} {ns : String} (mem : ns ∈ known.cleared)
    (request : StoreCall) (answer : Except Error request.Answer) :
    ns ∈ (known.learn request answer).cleared := by
  cases request with
  | deleteArtifact kind place => cases answer <;> exact List.mem_cons_of_mem _ mem
  | _ => cases answer <;> exact mem

namespace Knowledge

variable {key : ObjectKey} {known : Knowledge} {cluster after : Cluster} {kind : ArtifactKind}

/-- What is replaced is what was seen, and it belongs to no other source. -/
theorem Sound.replaces_seen (sound : known.Sound key cluster) {revised stored : Artifact kind}
    (warranted : Warranted key known (.replaceArtifact kind revised))
    (found : (cluster.artifacts kind)[revised.metadata.key]? = some stored)
    (version : stored.metadata.resourceVersion = revised.metadata.resourceVersion) :
    (stored.owner? = none ∧ revised.owner? = some key) ∨ stored.owner? = some key := by
  cases warranted with
  | @replace first hand ns artifact _ hfirst hhand named hseen own hrevise =>
    obtain ⟨hplace, faithful⟩ := sound.seen _ hseen
    obtain ⟨hkey, hversion⟩ := artifact.revise_eq_some hrevise
    rw [hkey, hplace] at found
    obtain rfl := faithful.same _ found (version.trans hversion)
    have hhand_key := (sound.hand _ hhand).1
    rw [Artifact.otherOwner?_eq_none, hhand_key] at own
    refine own.imp_left fun unlabelled => ⟨unlabelled, ?_⟩
    rw [← hhand_key]
    exact Artifact.owner?_of_revise unlabelled hrevise

/-- Where a round has deleted, it neither writes nor deletes while nothing is there. -/
theorem spares_cleared {request : StoreCall} {value : request.Answer}
    (warranted : Warranted key known request) (grants : cluster.Grants request value after)
    {place : ObjectKey} (missing : (cluster.artifacts kind)[place]? = none)
    (mem : place.ns ∈ known.cleared) : ¬ Cluster.Touches kind place request := by
  intro touches
  cases touches with
  | create hkey =>
    cases warranted with
    | create hfirst hhand named fresh =>
      subst hkey
      exact fresh mem
  | replace hkey =>
    cases grants with
    | replaceArtifact hstored =>
      rw [hkey, missing] at hstored
      cases hstored
  | delete =>
    cases grants with
    | deleteArtifact hstored =>
      rw [missing] at hstored
      cases hstored

end Knowledge

namespace Since

variable {keys : Side → ObjectKey} {side : Side} {between : List (Side × Act Cluster)}
  {sighting : Sighting} {other : Knowledge} {cluster after : Cluster}

theorem append (h : Since keys side between sighting other cluster) {next : Knowledge}
    (hcleared : ∀ ns ∈ other.cleared, ns ∈ next.cleared)
    (later : List (Side × Act Cluster)) :
    Since keys side (between ++ later) sighting next cluster := by
  cases h with
  | kept found => exact .kept found
  | gone missing mem => exact .gone missing (hcleared _ mem)
  | adopted adopts => exact .adopted (adopts.append later)
  | foreign owner => exact .foreign owner

/-- The other round has done something with an artifact that was still there. -/
theorem of_touches {kind : ArtifactKind} {place : ObjectKey} {artifact : Artifact kind}
    (sound : other.Sound (keys side.other) cluster) {request : StoreCall}
    {value : request.Answer} (warranted : Warranted (keys side.other) other request)
    (grants : cluster.Grants request value after)
    (found : (cluster.artifacts kind)[place]? = some artifact)
    (touches : Cluster.Touches kind place request) :
    Since keys side (between ++ [(side.other, .asked cluster request (.ok value))])
      ⟨kind, place, artifact⟩ (other.learn request (.ok value)) after := by
  cases touches with
  | create hkey =>
    cases grants with
    | createArtifact missing =>
      rw [hkey, found] at missing
      cases missing
  | @replace revised hkey =>
    cases grants with
    | @replaceArtifact _ _ stored hstored version =>
      have hsame := hstored
      rw [hkey, found] at hsame
      cases hsame
      rcases sound.replaces_seen warranted hstored version with ⟨unlabelled, howner⟩ | howner
      · exact .adopted ⟨unlabelled, cluster, revised, revised.atVersion cluster.nextVersion,
          List.mem_append_right _ (List.mem_singleton_self _), found, hkey, howner⟩
      · exact .foreign howner
  | delete =>
    cases grants with
    | deleteArtifact hstored =>
      refine .gone ?_ List.mem_cons_self
      rw [Cluster.artifacts_removeArtifact, if_pos rfl]

/-- The other round may do one thing more. -/
theorem grant (h : Since keys side between sighting other cluster)
    (sound : other.Sound (keys side.other) cluster) {request : StoreCall}
    {value : request.Answer} (warranted : Warranted (keys side.other) other request)
    (grants : cluster.Grants request value after) :
    Since keys side (between ++ [(side.other, .asked cluster request (.ok value))]) sighting
      (other.learn request (.ok value)) after := by
  cases h with
  | adopted adopts => exact .adopted (adopts.append _)
  | foreign owner => exact .foreign owner
  | kept found =>
    by_cases touches : Cluster.Touches sighting.kind sighting.place request
    · exact of_touches sound warranted grants found touches
    · exact .kept ((grants.artifact_eq touches).trans found)
  | gone missing mem =>
    have untouched := Knowledge.spares_cleared warranted grants missing mem
    exact .gone ((grants.artifact_eq untouched).trans missing)
      (Knowledge.mem_cleared_learn mem request (.ok value))

end Since

/-- One of two rounds has seen an artifact at its last call. What the other one may have done
with it since is known. -/
def Watched (keys : Side → ObjectKey) (side : Side) (entries : List (Side × Act Cluster))
    (sighting : Sighting) (other : Knowledge) (cluster : Cluster) : Prop :=
  ∃ earlier looked between, entries = earlier ++
      (side, .asked looked (.getArtifact sighting.kind sighting.place) (.ok sighting.artifact)) ::
        between ∧
    (∀ entry ∈ between, entry.1 = side → entry.2.call? = none) ∧
    Since keys side between sighting other cluster

namespace Watched

variable {keys : Side → ObjectKey} {side : Side} {entries : List (Side × Act Cluster)}
  {sighting : Sighting} {other next : Knowledge} {cluster after : Cluster}

theorem append (h : Watched keys side entries sighting other cluster)
    {entry : Side × Act Cluster} (quiet : entry.1 = side → entry.2.call? = none)
    (hsince : ∀ between, Since keys side between sighting other cluster →
      Since keys side (between ++ [entry]) sighting next after) :
    Watched keys side (entries ++ [entry]) sighting next after := by
  obtain ⟨earlier, looked, between, rfl, hbetween, since⟩ := h
  refine ⟨earlier, looked, between ++ [entry], ?_, ?_, hsince between since⟩
  · rw [List.append_assoc, List.cons_append]
  · intro other mem hside
    rcases List.mem_append.mp mem with mem | mem
    · exact hbetween other mem hside
    · obtain rfl := List.mem_singleton.mp mem
      exact quiet hside

/-- A delete that hits a copy of the other source was overtaken. -/
theorem overtaken (h : Watched keys side entries sighting other cluster)
    (own : sighting.artifact.owner? ≠ some (keys side.other))
    {stored : Artifact sighting.kind}
    (found : (cluster.artifacts sighting.kind)[sighting.place]? = some stored)
    (howner : stored.owner? = some (keys side.other)) {answer : Except Error Unit} :
    Overtaken keys entries
      (side, .asked cluster (.deleteArtifact sighting.kind sighting.place) answer) := by
  obtain ⟨earlier, looked, between, rfl, hbetween, since⟩ := h
  refine ⟨earlier, looked, sighting.artifact, between, rfl, hbetween, ?_⟩
  cases since with
  | kept hkept =>
    rw [hkept] at found
    cases found
    exact absurd howner own
  | gone missing =>
    rw [missing] at found
    cases found
  | adopted adopts => exact adopts
  | foreign hforeign => exact absurd hforeign own

end Watched

namespace Tandem

/-- Of two rounds at work, each knows what fits, and what it saw last is watched. So far neither
has hit a copy of the other one's source, unless it was overtaken. -/
structure Guarded (tandem : Tandem Action) (keys : Side → ObjectKey) (known : Side → Knowledge) :
    Prop extends Knows tandem keys known where
  watched : ∀ side sighting, (known side).seen = some sighting →
    Watched keys side tandem.acts sighting (known side.other) tandem.cluster
  spared : Each (fun before entry => entry.2.struck? = some (keys entry.1.other) →
    Overtaken keys before entry) [] tandem.acts

namespace Guarded

variable {keys : Side → ObjectKey} {tandem : Tandem Action} {known : Side → Knowledge}
  {side : Side} {after : Cluster}

theorem start {cluster : Cluster} (keyed : cluster.WellKeyed) (dated : cluster.Dated) :
    Guarded (rounds keys cluster) keys fun _ => {} where
  toKnows := .start keyed dated
  watched side sighting hseen := by cases hseen
  spared before entry later heq := by simp [rounds] at heq

theorem publish (h : Guarded tandem keys known) {event : Event} {next : Program Action}
    (hprogram : tandem.programs side = .publish event next) :
    Guarded (tandem.advance side (.told event) next tandem.cluster) keys known where
  toKnows := h.toKnows.publish hprogram
  watched who sighting hseen :=
    (h.watched who sighting hseen).append (fun _ => rfl) fun _ since =>
      since.append (fun _ mem => mem) _
  spared := h.spared.concat nofun

theorem fail (h : Guarded tandem keys known) {request : StoreCall}
    {next : Except Error request.Answer → Program Action}
    (hprogram : tandem.programs side = .call request next) (error : Error) :
    Guarded (tandem.advance side (.asked tandem.cluster request (.error error))
      (next (.error error)) tandem.cluster) keys (learn known side request (.error error)) where
  toKnows := h.toKnows.fail hprogram error
  watched who sighting hseen := by
    rcases Side.eq_or_eq_other side who with rfl | rfl
    · rw [learn_self, Knowledge.seen_learn_error] at hseen
      cases hseen
    · rw [learn_of_ne _ _ _ _ who.other_ne.symm] at hseen
      rw [learn_self]
      refine (h.watched who sighting hseen).append (fun hside => absurd hside who.other_ne) ?_
      exact fun _ since => since.append (fun _ mem => Knowledge.mem_cleared_learn mem _ _) _
  spared := h.spared.concat fun hstruck => by cases request <;> cases hstruck

/-- A write that takes effect on a copy of the other source is a delete, and it was overtaken. -/
theorem struck (h : Guarded tandem keys known) (different : keys .left ≠ keys .right)
    {request : StoreCall} {value : request.Answer}
    (warranted : Warranted (keys side) (known side) request)
    (grants : tandem.cluster.Grants request value after)
    (hstruck : (Act.asked tandem.cluster request (.ok value)).struck? =
      some (keys side.other)) :
    Overtaken keys tandem.acts (side, .asked tandem.cluster request (.ok value)) := by
  have hkeys : keys side ≠ keys side.other := by
    cases side
    · exact different
    · exact different.symm
  have sound := h.sound side
  cases request with
  | replaceArtifact kind revised =>
    obtain ⟨stored, found, howner⟩ := Option.bind_eq_some_iff.mp hstruck
    cases grants with
    | replaceArtifact hstored version =>
      rw [hstored] at found
      cases found
      rcases sound.replaces_seen warranted hstored version with ⟨unlabelled, -⟩ | own
      · rw [unlabelled] at howner
        cases howner
      · rw [own] at howner
        exact absurd (Option.some.inj howner) hkeys
  | deleteArtifact kind place =>
    obtain ⟨stored, found, howner⟩ := Option.bind_eq_some_iff.mp hstruck
    cases warranted with
    | @take hand ns artifact hhand hseen own =>
      refine (h.watched side _ hseen).overtaken ?_ found howner
      rw [Artifact.otherOwner?_eq_none, (sound.hand hand hhand).1] at own
      rcases own with unlabelled | own
      · rw [unlabelled]
        exact nofun
      · rw [own]
        exact fun heq => hkeys (Option.some.inj heq)
  | _ => cases hstruck

theorem grant (h : Guarded tandem keys known) (different : keys .left ≠ keys .right)
    {request : StoreCall} {next : Except Error request.Answer → Program Action}
    {value : request.Answer} (hprogram : tandem.programs side = .call request next)
    (grants : tandem.cluster.Grants request value after) :
    Guarded (tandem.advance side (.asked tandem.cluster request (.ok value))
      (next (.ok value)) after) keys (learn known side request (.ok value)) where
  toKnows := h.toKnows.grant hprogram grants
  watched who sighting hseen := by
    rcases Side.eq_or_eq_other side who with rfl | rfl
    · rw [learn_self] at hseen
      cases grants with
      | getArtifact found =>
        cases hseen
        exact ⟨tandem.acts, tandem.cluster, [], rfl, by simp, .kept found⟩
      | _ => cases hseen
    · rw [learn_of_ne _ _ _ _ who.other_ne.symm] at hseen
      rw [learn_self]
      refine (h.watched who sighting hseen).append (fun hside => absurd hside who.other_ne) ?_
      exact fun _ since => since.grant (h.sound who.other) (h.warranted hprogram) grants
  spared := h.spared.concat (h.struck different (h.warranted hprogram) grants)

theorem turned (h : Guarded tandem keys known) (different : keys .left ≠ keys .right)
    {next : Tandem Action} (hturned : tandem.Turned side next) :
    ∃ known, Guarded next keys known := by
  cases hturned with
  | idle => exact ⟨known, h⟩
  | published hprogram => exact ⟨known, h.publish hprogram⟩
  | failed hprogram => exact ⟨_, h.fail hprogram _⟩
  | granted hprogram grants => exact ⟨_, h.grant different hprogram grants⟩

end Guarded

end Tandem

/-- In whatever order two rounds for different sources take turns, and whichever calls fail: a
round takes no effect on an artifact with the labels of the other source, but for a delete that
was overtaken. -/
theorem a_copy_of_another_source_is_struck_only_by_a_delete_that_was_overtaken {cluster : Cluster}
    {keys : Side → ObjectKey} (different : keys .left ≠ keys .right) (keyed : cluster.WellKeyed)
    (dated : cluster.Dated) (schedule : List (Side × Option Refusal))
    {before later : List (Side × Act Cluster)} {side : Side} {act : Act Cluster}
    (hacts : ((Tandem.rounds keys cluster).turns schedule).acts = before ++ (side, act) :: later)
    (hstruck : act.struck? = some (keys side.other)) : Overtaken keys before (side, act) := by
  have hstep : ∀ {tandem next : Tandem Action} {side : Side},
      (∃ known, tandem.Guarded keys known) → tandem.Turned side next →
      ∃ known, next.Guarded keys known :=
    fun ⟨_, h⟩ hturned => h.turned different hturned
  obtain ⟨known, h⟩ := Tandem.turns_induction ⟨_, .start keyed dated⟩ hstep schedule
  exact h.spared before (side, act) later hacts hstruck

/-- Two sources of one name, and with one target. The first one is on its way out. -/
def ClusterConfig.rival : Side → ClusterConfig
  | .left => { ClusterConfig.trial "a" with
    metadata := { name := some "app-config", ns := some "default", finalizers := some ["a"],
                  deletionTimestamp := some Simulation.endOfSources } }
  | .right => { ClusterConfig.trial "a" with
    metadata := { name := some "app-config", ns := some "team-b" } }

/-- An artifact of that name in the target, without labels. -/
def Artifact.unclaimed : Artifact .configMap where
  metadata := { name := some "app-config", ns := some "a" }
  parts := {}

/-- A cluster with these three. -/
def Cluster.contested : Cluster :=
  ((({ namespaces := ["a"] } : Cluster).putSource ⟨"default", "app-config"⟩
    (.rival .left)).putSource ⟨"team-b", "app-config"⟩ (.rival .right)).putArtifact .unclaimed

theorem Cluster.keyed_contested : Cluster.contested.WellKeyed :=
  (((keyed_empty ["a"]).putSource (.rival .left)).putSource (.rival .right)).putArtifact .unclaimed

theorem Cluster.dated_contested : Cluster.contested.Dated :=
  (Write.putArtifact .unclaimed).dated
    ((Write.putSource (.rival .right)).dated
      ((Write.putSource (.rival .left)).dated (dated_empty ["a"])))

def Side.key (side : Side) : ObjectKey :=
  (ClusterConfig.rival side).metadata.key

/-- The round for the first source sees the artifact, then the other round adopts it and ends,
and then the first one goes on. -/
def Tandem.contest : Tandem Action :=
  (rounds Side.key .contested).turns <|
    [.left, .left, .right, .right, .right, .right, .right, .right, .left, .left].map (·, none)

/-- It deletes what the other source has put its labels on. -/
theorem an_adopted_artifact_is_deleted :
    (Tandem.contest.cluster.configMaps[(⟨"a", "app-config"⟩ : ObjectKey)]?).isNone ∧
      ∃ before act later, Tandem.contest.acts = before ++ (.left, act) :: later ∧
        act.struck? = some (Side.key .right) ∧ Overtaken Side.key before (.left, act) := by
  refine ⟨by decide +kernel, ?_⟩
  have hany : Tandem.contest.acts.any (fun entry => entry.1 = .left ∧
      entry.2.struck? = some (Side.key .right)) = true := by decide +kernel
  obtain ⟨⟨side, act⟩, mem, hentry⟩ := List.any_eq_true.mp hany
  obtain ⟨rfl, hstruck⟩ : side = .left ∧ act.struck? = some (Side.key .right) := by
    simpa using hentry
  obtain ⟨before, later, heq⟩ := List.append_of_mem mem
  exact ⟨before, act, later, heq, hstruck,
    a_copy_of_another_source_is_struck_only_by_a_delete_that_was_overtaken (by decide)
      Cluster.keyed_contested Cluster.dated_contested _ heq hstruck⟩

end ConfigFanout
