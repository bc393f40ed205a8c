import ConfigFanout.Proofs.Round
import ConfigFanout.Proofs.Warrants
import ConfigFanout.Proofs.Writes

-- What a round does to what others write meanwhile. A write that replaces an object succeeds
-- only if an object of the version at hand is stored, and then it is the one at hand: so what
-- the round does not mean to change is put back as it was found.
namespace ConfigFanout

/-! ## Copies at hand -/

namespace Knowledge

/-- What a round knows of the source under a key fits a cluster: its copies are as good as the
objects that they were made of. -/
structure Sound (key : ObjectKey) (known : Knowledge) (cluster : Cluster) : Prop where
  keyed : cluster.WellKeyed
  dated : cluster.Dated
  hand : ∀ source, known.hand = some source → source.metadata.key = key ∧
    cluster.Faithful ClusterConfig.metadata cluster.sources[key]? source
  seen : ∀ sighting, known.seen = some sighting →
    sighting.artifact.metadata.key = sighting.place ∧
    cluster.Faithful Artifact.metadata (cluster.artifacts sighting.kind)[sighting.place]?
      sighting.artifact

@[simp] theorem hand_learn_error (known : Knowledge) (request : StoreCall) (error : Error) :
    (known.learn request (.error error)).hand = known.hand := by
  cases request <;> rfl

@[simp] theorem seen_learn_error (known : Knowledge) (request : StoreCall) (error : Error) :
    (known.learn request (.error error)).seen = none := by
  cases request <;> rfl

namespace Sound

variable {key : ObjectKey} {known : Knowledge} {cluster after : Cluster}

theorem start (keyed : cluster.WellKeyed) (dated : cluster.Dated) : Sound key {} cluster :=
  ⟨keyed, dated, by simp, by simp⟩

/-- Whoever writes, what is known stays as good as it is. -/
theorem written (h : Sound key known cluster) (hwritten : cluster.Written after) :
    Sound key known after where
  keyed := hwritten.keyed h.keyed
  dated := hwritten.dated h.dated
  hand source hsource :=
    have ⟨hkey, faithful⟩ := h.hand source hsource
    ⟨hkey, hwritten.faithful_source faithful⟩
  seen sighting hseen :=
    have ⟨hkey, faithful⟩ := h.seen sighting hseen
    ⟨hkey, hwritten.faithful_artifact faithful⟩

theorem give (h : Sound key known cluster) {source : ClusterConfig} {next : Knowledge}
    (hnext : next.hand = some source) (hunseen : next.seen = none)
    (hkey : source.metadata.key = key)
    (faithful : cluster.Faithful ClusterConfig.metadata cluster.sources[key]? source) :
    Sound key next cluster where
  keyed := h.keyed
  dated := h.dated
  hand other hother := by
    rw [hnext] at hother
    cases hother
    exact ⟨hkey, faithful⟩
  seen sighting hseen := by
    rw [hunseen] at hseen
    cases hseen

theorem forget (h : Sound key known cluster) {next : Knowledge} (hhand : next.hand = known.hand)
    (hunseen : next.seen = none) : Sound key next cluster where
  keyed := h.keyed
  dated := h.dated
  hand source hsource := h.hand source (hhand ▸ hsource)
  seen sighting hseen := by
    rw [hunseen] at hseen
    cases hseen

/-- A source that is written is put where the one at hand is. -/
theorem key_of_warranted (h : Sound key known cluster) {source : ClusterConfig}
    (warranted : Warranted key known (.updateSource source) ∨
      Warranted key known (.updateStatus source)) : source.metadata.key = key := by
  rcases warranted with warranted | warranted
  · cases warranted with
    | add hhand => exact (h.hand _ hhand).1
    | drop hhand => exact (h.hand _ hhand).1
  · cases warranted with
    | record hhand => exact (h.hand _ hhand).1

/-- What a call tells fits the cluster that it leaves. -/
theorem learn (h : Sound key known cluster) {request : StoreCall} {value : request.Answer}
    (warranted : Warranted key known request) (grants : cluster.Grants request value after) :
    Sound key (known.learn request (.ok value)) after := by
  have hafter := h.written (grants.written h.keyed)
  cases grants with
  | @getSource place source found =>
    cases warranted
    exact hafter.give rfl rfl (h.keyed.sources _ _ found)
      (.of_found found (h.dated.sources _ _ found))
  | @updateSource source stored hstored version =>
    have hkey := h.key_of_warranted (.inl warranted)
    refine hafter.give rfl rfl hkey ⟨?_, fun object hobject _ => ?_⟩
    · rw [Cluster.version_replaceSource]
      exact Metadata.dated_of_version rfl
    · rw [Cluster.sources_replaceSource, if_pos hkey] at hobject
      split at hobject
      · cases hobject
      · exact (Option.some.inj hobject).symm
  | @updateStatus source stored hstored =>
    have hkey := h.key_of_warranted (.inr warranted)
    have hstored_key := (h.keyed.sources _ stored hstored).trans hkey
    refine hafter.give rfl rfl hstored_key (.of_found ?_ (Metadata.dated_of_version rfl))
    rw [Cluster.sources_putSource, if_pos hkey]
  | listNamespaces => exact hafter.forget rfl rfl
  | @getArtifact kind place artifact found =>
    refine ⟨h.keyed, h.dated, h.hand, fun sighting hseen => ?_⟩
    cases hseen
    exact ⟨h.keyed.artifacts _ _ artifact found, .of_found found (h.dated.artifacts _ _ _ found)⟩
  | createArtifact | replaceArtifact | deleteArtifact => exact hafter.forget rfl rfl

theorem learn_error (h : Sound key known cluster) (request : StoreCall) (error : Error) :
    Sound key (known.learn request (.error error)) cluster :=
  h.forget (hand_learn_error known request error) (seen_learn_error known request error)

/-- A round goes on knowing what fits, whoever writes between its calls. -/
theorem shared {may : Refusal → Prop} (h : Sound key known cluster) {request : StoreCall}
    {answer : Except Error request.Answer} (warranted : Warranted key known request)
    (ha : (Cluster.shared may).answers request cluster answer after) :
    Sound key (known.learn request answer) after := by
  rcases Cluster.answered_or_left ha with ⟨value, between, rfl, hanswer, hwritten⟩ |
    ⟨error, rfl, hwritten⟩
  · exact (h.learn warranted (Cluster.grants_of_answer hanswer)).written hwritten
  · exact (h.learn_error request error).written hwritten

end Sound

end Knowledge

/-! ## What writes leave of the writes of others -/

/-- One token more, or one less. -/
inductive ChangesToken (held : List String) : List String → Prop
  /-- A token that is not there is put at the end. -/
  | add {token : String} : token ∉ held → ChangesToken held (held ++ [token])
  /-- A token goes, every time that it is there. -/
  | drop {token : String} : token ∈ held → ChangesToken held (held.filter (· ≠ token))

namespace Artifact

variable {kind : ArtifactKind}

/-- The labels, none if there are no labels. -/
def marks (artifact : Artifact kind) : TextMap String :=
  artifact.metadata.labels.getD ∅

/-- The artifact with other labels. -/
def withLabels (artifact : Artifact kind) (labels : Option (TextMap String)) : Artifact kind :=
  { artifact with metadata := { artifact.metadata with labels } }

/-- A revision changes the entries and the two labels that name a source, and nothing else. -/
theorem revise_eq_withLabels {source : ClusterConfig} {artifact revised : Artifact kind}
    (h : source.revise artifact = some revised) :
    ∃ labels, revised = (artifact.withLabels labels).withPayload (kind.payload source) ∧
      ∀ label, label ≠ sourceLabel → label ≠ sourceNamespaceLabel →
        revised.marks[label]? = artifact.marks[label]? := by
  unfold ClusterConfig.revise at h
  split at h
  · cases h
    refine ⟨_, rfl, fun label hname hns => ?_⟩
    show (ownerLabels source artifact.marks)[label]? = artifact.marks[label]?
    rw [ownerLabels, Std.ExtTreeMap.getElem?_insert, if_neg (by simpa using hns.symm),
      Std.ExtTreeMap.getElem?_insert, if_neg (by simpa using hname.symm)]
  · dsimp only at h
    split at h
    · cases h
    · cases h
      exact ⟨artifact.metadata.labels, rfl, fun _ _ _ => rfl⟩

end Artifact

/-- A write that succeeds leaves of the object that was stored just before all that it does not
mean to change. -/
def Act.LosesNothing : Act Cluster → Prop
  /- A change of finalizers is one token more or less. A source on its way out that has no
  finalizers left is gone then. -/
  | .asked cluster (.updateSource source) (.ok written) => ∃ stored finalizers,
    cluster.sources[source.metadata.key]? = some stored ∧
    ChangesToken stored.metadata.held finalizers ∧
    cluster.answer (.updateSource source) =
      (.ok written, cluster.replaceSource (stored.withFinalizers finalizers))
  /- A change of the status is one of the status only. -/
  | .asked cluster (.updateStatus source) (.ok written) => ∃ stored status,
    cluster.sources[source.metadata.key]? = some stored ∧
    cluster.answer (.updateStatus source) =
      (.ok written, cluster.putSource source.metadata.key { stored with status })
  /- A revised artifact has other entries, and may have other labels that name a source. -/
  | .asked cluster (.replaceArtifact kind revised) (.ok written) => ∃ stored labels payload,
    (cluster.artifacts kind)[revised.metadata.key]? = some stored ∧
    revised = (stored.withLabels labels).withPayload payload ∧
    (∀ label, label ≠ Artifact.sourceLabel → label ≠ Artifact.sourceNamespaceLabel →
      revised.marks[label]? = stored.marks[label]?) ∧
    cluster.answer (.replaceArtifact kind revised) = (.ok written, cluster.putArtifact revised)
  | _ => True

namespace Knowledge.Sound

variable {key : ObjectKey} {known : Knowledge} {cluster after : Cluster}

/-- A source that is written with other finalizers, by what is at hand, is the stored one with
these. -/
theorem replaces_stored (h : Sound key known cluster) {hand written : ClusterConfig}
    {finalizers : List String} (hhand : known.hand = some hand)
    (hanswer : cluster.answer (.updateSource (hand.withFinalizers finalizers)) =
      (.ok written, after)) :
    cluster.sources[(hand.withFinalizers finalizers).metadata.key]? = some hand ∧
      after = cluster.replaceSource (hand.withFinalizers finalizers) := by
  obtain ⟨hkey, faithful⟩ := h.hand hand hhand
  cases Cluster.grants_of_answer hanswer with
  | updateSource hstored version =>
    have hplace : (hand.withFinalizers finalizers).metadata.key = key := hkey
    obtain rfl := faithful.same _ (hplace ▸ hstored) version
    exact ⟨hstored, rfl⟩

theorem losesNothing (h : Sound key known cluster) {request : StoreCall}
    {value : request.Answer} (warranted : Warranted key known request)
    (hanswer : cluster.answer request = (.ok value, after)) :
    (Act.asked cluster request (.ok value)).LosesNothing := by
  cases warranted with
  | fetch | list | look | take | create => trivial
  | @add hand token hhand unheld =>
    obtain ⟨hstored, rfl⟩ := h.replaces_stored hhand hanswer
    exact ⟨hand, _, hstored, .add (by simpa [ClusterConfig.holds] using unheld), hanswer⟩
  | @drop hand token hhand held =>
    obtain ⟨hstored, rfl⟩ := h.replaces_stored hhand hanswer
    exact ⟨hand, _, hstored, .drop (by simpa [ClusterConfig.holds] using held), hanswer⟩
  | record hhand =>
    cases Cluster.grants_of_answer hanswer with
    | updateStatus hstored => exact ⟨_, _, hstored, hanswer⟩
  | @replace first hand ns artifact revised hfirst hhand named hseen own hrevise =>
    obtain ⟨hplace, faithful⟩ := h.seen _ hseen
    obtain ⟨hkey, hversion⟩ := artifact.revise_eq_some hrevise
    obtain ⟨labels, hrevised, hmarks⟩ := Artifact.revise_eq_withLabels hrevise
    cases Cluster.grants_of_answer hanswer with
    | replaceArtifact hstored version =>
      have hfound := hstored
      rw [hkey, hplace] at hfound
      obtain rfl := faithful.same _ hfound (version.trans hversion)
      exact ⟨_, labels, _, hstored, hrevised, hmarks, hanswer⟩

end Knowledge.Sound

/-- Whatever others write between the calls of a round, and whichever calls fail: no write of
the round takes back anything of what was stored when it was made. -/
theorem a_round_loses_no_update {may : Refusal → Prop} {cluster : Cluster} (key : ObjectKey)
    (keyed : cluster.WellKeyed) (dated : cluster.Dated) :
    (reconcile key).Traces (Cluster.shared may) cluster
      fun acts _ _ => ∀ act ∈ acts, act.LosesNothing := by
  have hfits : (Monitor.round key).Fits (Cluster.shared may)
      (fun _ => Knowledge.Sound key) fun _ act => act.LosesNothing := by
    constructor
    · intro past known state request answer after sound warranted ha
      refine ⟨?_, sound.shared warranted ha⟩
      rcases Cluster.answered_or_left ha with ⟨value, between, rfl, hanswer, -⟩ | ⟨error, rfl, -⟩
      · exact sound.losesNothing warranted hanswer
      · cases request <;> trivial
    · intro past known state event sound
      exact ⟨trivial, sound⟩
  refine ((reconcile_obeys key).traces hfits (.start keyed dated)).mono ?_
  intro acts _ _ hacts act mem
  obtain ⟨before, later, rfl⟩ := List.append_of_mem mem
  exact hacts before act later rfl

theorem Cluster.dated_trial (namespaces : List String) (namespaceList : String) :
    (Cluster.trial namespaces namespaceList).Dated :=
  (Write.putSource (.trial namespaceList)).dated (dated_empty namespaces)

/-- The source that others put in place of the one that a round has just guarded: it goes to
another namespace as well, and has a finalizer and an annotation of theirs. -/
def ClusterConfig.handled : ClusterConfig :=
  { ClusterConfig.trial "a,b" with
    metadata := {
      name := some "app-config", ns := some "default"
      finalizers := some ["a", "example.com/hold"]
      annotations := some (.ofList [("team", "blue")]) } }

/-- They put it there after the round has put up its first copy. -/
def Cluster.handled : Cluster × List (Option ClusterConfig) :=
  (.trial ["a"] "a", [none, none, none, some .handled])

/-- The status of the round is put beside what they wrote. -/
theorem the_status_is_put_beside_what_others_wrote :
    ((reconcile ⟨"default", "app-config"⟩).run Cluster.edited Cluster.handled).1 =
        .ok .awaitChange ∧
      ((reconcile ⟨"default", "app-config"⟩).run Cluster.edited Cluster.handled).2.1.sources[
        (⟨"default", "app-config"⟩ : ObjectKey)]? =
        some ({ ClusterConfig.handled with status := some ⟨["a"]⟩ }.atVersion 5) ∧
      ∀ act ∈ ((reconcile ⟨"default", "app-config"⟩).acts Cluster.edited Cluster.handled).map
        (Act.view Prod.fst), act.LosesNothing := by
  refine ⟨by decide +kernel, by decide +kernel, ?_⟩
  exact (@a_round_loses_no_update (fun _ => False) Cluster.handled.1 ⟨"default", "app-config"⟩
    (Cluster.keyed_trial ["a"] "a") (Cluster.dated_trial ["a"] "a")).run
    (Cluster.shared_admits_edited _) trivial

end ConfigFanout
