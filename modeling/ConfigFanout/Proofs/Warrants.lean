import ConfigFanout.Proofs.Monitors

-- What a round goes by. Each of its calls follows from what earlier calls were answered: it
-- works on the copy of the source that it was given last, on an artifact that it has just
-- seen, and in namespaces that the source named when it was first looked up.
namespace ConfigFanout

/-- An artifact that was seen at a place. -/
structure Sighting where
  kind : ArtifactKind
  place : ObjectKey
  artifact : Artifact kind

/-- What the answers to the calls of a round tell. -/
structure Knowledge where
  /-- The source as it was looked up. -/
  first : Option ClusterConfig := none
  /-- The source as a call gave it last. -/
  hand : Option ClusterConfig := none
  /-- The artifact that was found, if the last call was a look at one. -/
  seen : Option Sighting := none
  /-- The namespaces from which artifacts were to be deleted. -/
  cleared : List String := []

namespace Knowledge

/-- What is known once a call is answered. An artifact may be another one after any call but
a look. -/
def learn (known : Knowledge) :
    (request : StoreCall) → Except Error request.Answer → Knowledge
  | .getSource _, .ok source =>
    { known with first := some source, hand := some source, seen := none }
  | .updateSource _, .ok source | .updateStatus _, .ok source =>
    { known with hand := some source, seen := none }
  | .getArtifact kind place, .ok artifact => { known with seen := some ⟨kind, place, artifact⟩ }
  | .deleteArtifact _ place, _ =>
    { known with cleared := place.ns :: known.cleared, seen := none }
  | _, _ => { known with seen := none }

end Knowledge

/-- Whether a source names a namespace, or all of them. -/
def ClusterConfig.Names (source : ClusterConfig) (ns : String) : Prop :=
  source.targetsAll = true ∨ ns ∈ NamespaceList.parse source.spec.namespaceList

instance (source : ClusterConfig) (ns : String) : Decidable (source.Names ns) :=
  inferInstanceAs (Decidable (_ ∨ _))

/-- The calls that a round for the source under a key may make, by what it knows. -/
inductive Warranted (key : ObjectKey) (known : Knowledge) : StoreCall → Prop
  /-- The source is looked up, before anything else. -/
  | fetch : known = {} → Warranted key known (.getSource key)
  /-- All namespaces are listed. -/
  | list : Warranted key known .listNamespaces
  /-- The artifact with the name of the source is looked up. -/
  | look {hand : ClusterConfig} {ns : String} : known.hand = some hand →
    Warranted key known (.getArtifact hand.spec.kind ⟨ns, hand.metadata.anyName⟩)
  /-- An artifact that was seen to belong to no other source is deleted. -/
  | take {hand : ClusterConfig} {ns : String}
      {artifact : Artifact hand.spec.kind} : known.hand = some hand →
    known.seen = some ⟨hand.spec.kind, ⟨ns, hand.metadata.anyName⟩, artifact⟩ →
    artifact.otherOwner? hand = none →
    Warranted key known (.deleteArtifact hand.spec.kind ⟨ns, hand.metadata.anyName⟩)
  /-- A token that is not held is added. -/
  | add {hand : ClusterConfig} {token : String} : known.hand = some hand →
    hand.holds token = false →
    Warranted key known (.updateSource (hand.withFinalizers (hand.metadata.held ++ [token])))
  /-- A token that is held is dropped. -/
  | drop {hand : ClusterConfig} {token : String} : known.hand = some hand →
    hand.holds token = true →
    Warranted key known
      (.updateSource (hand.withFinalizers (hand.metadata.held.filter (· ≠ token))))
  /-- The status is written. -/
  | record {hand : ClusterConfig} {namespaces : List String} :
    known.hand = some hand →
    Warranted key known (.updateStatus { hand with status := some ⟨namespaces⟩ })
  /-- A new artifact is put into a namespace that the source named. -/
  | create {first hand : ClusterConfig} {ns : String} :
    known.first = some first → known.hand = some hand → first.Names ns → ns ∉ known.cleared →
    Warranted key known (.createArtifact hand.spec.kind
      (hand.newCopy hand.spec.kind hand.metadata.anyName ns))
  /-- An artifact that was seen to belong to no other source is revised, in a namespace that the
  source named. -/
  | replace {first hand : ClusterConfig} {ns : String}
      {artifact revised : Artifact hand.spec.kind} : known.first = some first →
    known.hand = some hand → first.Names ns →
    known.seen = some ⟨hand.spec.kind, ⟨ns, hand.metadata.anyName⟩, artifact⟩ →
    artifact.otherOwner? hand = none → hand.revise artifact = some revised →
    Warranted key known (.replaceArtifact hand.spec.kind revised)

/-- Someone who watches a round for the source under a key. -/
def Monitor.round (key : ObjectKey) : Monitor Knowledge where
  allows := Warranted key
  learns := Knowledge.learn

/-- A round goes on with a source at hand. The source that was looked up names the targets, and
nothing was deleted from them. -/
structure Knowledge.AtWork (targets : List String) (source : ClusterConfig) (known : Knowledge) :
    Prop where
  hand : known.hand = some source
  named : ∃ first, known.first = some first ∧ ∀ ns ∈ targets, first.Names ns
  cleared : ∀ ns ∈ known.cleared, ns ∉ targets

namespace Knowledge.AtWork

variable {key : ObjectKey} {targets : List String} {source : ClusterConfig} {known : Knowledge}

/-! ## The parts of a round -/

theorem give (h : AtWork targets source known) (stored : ClusterConfig) :
    AtWork targets stored { known with hand := some stored, seen := none } :=
  ⟨rfl, h.named, h.cleared⟩

theorem see (h : AtWork targets source known) (seen : Option Sighting) :
    AtWork targets source { known with seen } :=
  ⟨h.hand, h.named, h.cleared⟩

theorem addToken_obeys (h : AtWork targets source known) (token : String) :
    (source.addToken token).Passes (Monitor.round key).judge known (AtWork targets) :=
  ClusterConfig.passes_addToken (fun _ => h) fun unheld =>
    Monitor.call_returns (.add h.hand unheld) h.give

theorem dropToken_obeys (h : AtWork targets source known) (token : String) :
    (source.dropToken token).Passes (Monitor.round key).judge known (AtWork targets) :=
  ClusterConfig.passes_dropToken (fun _ => h) fun held =>
    Monitor.call_returns (.drop h.hand held) h.give

theorem recordProcessed_obeys (h : AtWork targets source known) (namespaces : List String) :
    (source.recordProcessed namespaces).Passes (Monitor.round key).judge known
      (AtWork targets) :=
  ClusterConfig.passes_recordProcessed (fun _ => h) fun _ =>
    Monitor.call_returns (.record h.hand) h.give

/-- A copy is taken away only from where the round does not write. -/
theorem withdraw_obeys (h : AtWork targets source known) {ns : String} (hns : ns ∉ targets) :
    (source.withdraw source.spec.kind ns).Passes (Monitor.round key).judge known
      fun _ => AtWork targets source := by
  refine ClusterConfig.passes_withdraw trivial fun _ =>
    Monitor.call_finds (.look h.hand) (fun _ => h.see none) fun existing => ?_
  have hgone : AtWork targets source
      { known with cleared := ns :: known.cleared, seen := none } :=
    ⟨h.hand, h.named, List.forall_mem_cons.mpr ⟨hns, h.cleared⟩⟩
  exact ⟨fun _ => h.see _, fun own =>
    Monitor.call_finds (.take h.hand rfl own) (fun _ => hgone) fun _ => hgone⟩

/-- A copy is brought up to date only in a target. -/
theorem synchronize_obeys (h : AtWork targets source known) {ns : String} (hns : ns ∈ targets) :
    (source.synchronize source.spec.kind ns).Passes (Monitor.round key).judge known
      fun _ => AtWork targets source := by
  obtain ⟨first, hfirst, named⟩ := h.named
  refine ClusterConfig.passes_synchronize trivial fun _ =>
    Monitor.call_finds (.look h.hand) (fun _ => ?_) fun existing => ?_
  · have fresh : ns ∉ known.cleared := fun mem => h.cleared ns mem hns
    exact Monitor.call_returns (.create hfirst h.hand (named ns hns) fresh) fun _ => h.see none
  · refine ⟨fun _ _ => trivial, fun _ _ => h.see _, fun revised own hrevise => ?_⟩
    exact Monitor.call_returns (.replace hfirst h.hand (named ns hns) rfl own hrevise)
      fun _ => h.see none

end Knowledge.AtWork

/-! ## Whole rounds -/

variable {key : ObjectKey}

/-- What is known once the source was looked up. -/
def Knowledge.of (source : ClusterConfig) : Knowledge :=
  { first := some source, hand := some source }

theorem resolve_obeys (source : ClusterConfig) :
    (resolve source.spec.namespaceList).Passes (Monitor.round key).judge (.of source)
      fun target known => known = .of source ∧ ∀ ns ∈ target.namespaces, source.Names ns :=
  passes_resolve (fun _ => ⟨rfl, fun _ mem => .inr mem⟩) fun every =>
    Monitor.call_returns .list fun _ => ⟨rfl, fun _ _ => .inl every⟩

/-- A round for a source that stays writes copies in the targets and takes them away elsewhere. -/
theorem applies_atWork (target : TargetSet) (processed : List String) :
    (Monitor.round key).judge.Applies target processed
      fun _ => Knowledge.AtWork target.namespaces where
  withdraw h mem := h.withdraw_obeys (NamespaceList.mem_stale.mp mem).2
  drop h _ := h.dropToken_obeys _
  record h := h.recordProcessed_obeys _
  add h _ := h.addToken_obeys _
  copy h mem := h.synchronize_obeys mem

/-- A round for a source on its way out writes no copies. -/
theorem departs_atWork (first : ClusterConfig) (target : TargetSet) :
    (Monitor.round key).judge.Departs first target (Knowledge.AtWork [])
      fun _ => Knowledge.AtWork [] where
  withdraw h _ := h.withdraw_obeys List.not_mem_nil
  drop h _ := h.dropToken_obeys _
  list h _ _ := Monitor.call_returns .list fun _ => h.see none
  sweep h _ := h.withdraw_obeys List.not_mem_nil
  swept h := h

/-- Each call of a round follows from what earlier calls were answered, whatever the answers
were. -/
theorem reconcile_obeys (key : ObjectKey) : (reconcile key).Obeys (.round key) {} := by
  refine Monitor.obeys_reconcile (.fetch rfl) fun source =>
    ClusterConfig.passes_round (fun _ => ?_) fun _ => ?_
  · refine ClusterConfig.passes_apply ((resolve_obeys source).mono ?_)
    rintro target known ⟨rfl, named⟩
    have h : Knowledge.AtWork target.namespaces source (.of source) :=
      ⟨rfl, ⟨source, rfl, named⟩, by simp [Knowledge.of]⟩
    exact ⟨_, applies_atWork target source.processed, h, fun _ _ _ _ => trivial⟩
  · refine ClusterConfig.passes_cleanup ((resolve_obeys source).mono ?_)
    rintro target known ⟨rfl, -⟩
    have h : Knowledge.AtWork [] source (.of source) := ⟨rfl, ⟨source, rfl, by simp⟩, by simp⟩
    exact ⟨_, _, departs_atWork source target, h, fun _ _ _ => trivial⟩

end ConfigFanout
