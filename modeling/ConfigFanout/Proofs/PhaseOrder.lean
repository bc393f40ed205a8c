import ConfigFanout.Proofs.Deeds

-- In which order a round for a source that stays does its work. Whatever fails on the way, a
-- copy is put up only under tokens that are stored by then.
namespace ConfigFanout

/-- The finalizers of the source that is stored under a key. -/
def Cluster.guards (cluster : Cluster) (key : ObjectKey) : List String :=
  match cluster.sources[key]? with
  | some source => source.metadata.held
  | none => []

namespace Act

/-- The finalizers that are held under a key when a call is made. -/
def guards (key : ObjectKey) : Act Cluster → List String
  | .asked cluster _ _ => cluster.guards key
  | .told _ => []

/-- The finalizers that a call adds to those that are stored. -/
def added : Act Cluster → List String
  | .asked cluster (.updateSource source) _ =>
    source.metadata.held.filter (· ∉ cluster.guards source.metadata.key)
  | _ => []

/-- The finalizers that a call removes from those that are stored. -/
def dropped : Act Cluster → List String
  | .asked cluster (.updateSource source) _ =>
    (cluster.guards source.metadata.key).filter (· ∉ source.metadata.held)
  | _ => []

/-- Where a call puts an artifact up, or in place of another one. -/
def placed? : Act Cluster → Option ObjectKey
  | .asked _ (.createArtifact _ artifact) _ | .asked _ (.replaceArtifact _ artifact) _ =>
    some artifact.metadata.key
  | _ => none

def deletes : Act Cluster → Bool
  | .asked _ (.deleteArtifact ..) _ => true
  | _ => false

def onArtifact : Act Cluster → Bool
  | .asked _ (.getArtifact ..) _ | .asked _ (.createArtifact ..) _
  | .asked _ (.replaceArtifact ..) _ | .asked _ (.deleteArtifact ..) _ => true
  | _ => false

def onStatus : Act Cluster → Bool
  | .asked _ (.updateStatus _) _ => true
  | _ => false

end Act

/-- Copies are put up under their tokens only, and what is done comes in a fixed order. -/
structure WritesAhead (key : ObjectKey) (target : TargetSet) (acts : List (Act Cluster)) :
    Prop where
  /-- All tokens of the target are stored when a copy is put up. -/
  guarded : ∀ act ∈ acts, ∀ place, act.placed? = some place →
    ∀ token ∈ target.tokens, token ∈ act.guards key
  /-- So there is one for the namespace of the copy. -/
  covered : ∀ act ∈ acts, ∀ place, act.placed? = some place →
    place.ns ∈ act.guards key ∨ everyToken ∈ act.guards key
  /-- Nothing is deleted once a finalizer was added. -/
  deletes_first : ∀ {first later : Act Cluster}, [first, later].Sublist acts →
    first.added ≠ [] → later.deletes = false
  /-- No finalizer is added once a copy was put up. -/
  adds_first : ∀ {first later : Act Cluster}, [first, later].Sublist acts →
    first.placed?.isSome → later.added = []
  /-- Once a finalizer was removed after a copy was put up, artifacts are left alone. -/
  drops_last : ∀ {first next later : Act Cluster}, [first, next, later].Sublist acts →
    first.placed?.isSome → next.dropped ≠ [] → later.onArtifact = false
  /-- Once a status was written after a copy was put up, no call is made. -/
  records_last : ∀ {first next later : Act Cluster}, [first, next, later].Sublist acts →
    first.placed?.isSome → next.onStatus → later.call? = none

namespace InPhases

variable {σ : Type} {deed : Phase → Act σ → Prop} {start : Phase} {acts : List (Act σ)}

theorem pair (h : InPhases deed start acts) {first later : Act σ}
    (hsome : [first, later].Sublist acts) :
    ∃ phase other, deed phase first ∧ deed other later ∧ phase.next ≤ other := by
  cases h.sublist hsome with
  | cons _ hfirst hrest =>
    cases hrest with
    | cons hle hlater _ => exact ⟨_, _, hfirst, hlater, hle⟩

theorem triple (h : InPhases deed start acts) {first next later : Act σ}
    (hsome : [first, next, later].Sublist acts) :
    ∃ phase middle other, deed phase first ∧ deed middle next ∧ deed other later ∧
      phase.next ≤ middle ∧ middle.next ≤ other := by
  cases h.sublist hsome with
  | cons _ hfirst hrest =>
    cases hrest with
    | cons hle hnext hrest =>
      cases hrest with
      | cons hle' hlater _ => exact ⟨_, _, _, hfirst, hnext, hlater, hle, hle'⟩

end InPhases

namespace Cluster

variable {lossy : Prop} {base source : ClusterConfig} {cluster : Cluster} {target : TargetSet}
  {phase : Phase} {act : Act Cluster}

theorem AtHand.guards_eq (h : cluster.AtHand base source) :
    cluster.guards base.metadata.key = source.metadata.held := by
  unfold guards
  rw [h.stored]

namespace Deed

theorem phase_of_added (h : Deed lossy base target phase act) (added : act.added ≠ []) :
    phase = .guarding := by
  cases h with
  | add => rfl
  | @drop _ _ source token _ _ hand =>
    refine absurd ?_ added
    have hkey : (source.withFinalizers (source.metadata.held.filter (· ≠ token))).metadata.key =
        base.metadata.key := ClusterConfig.key_of_alike hand.alike
    unfold Act.added
    dsimp only
    rw [hkey, hand.guards_eq]
    refine List.filter_eq_nil_iff.mpr fun other mem => ?_
    rw [decide_eq_true_iff, Decidable.not_not]
    exact (List.mem_filter.mp mem).1
  | _ => exact absurd rfl added

theorem phase_of_dropped (h : Deed lossy base target phase act) (dropped : act.dropped ≠ []) :
    phase = .retiring ∨ phase = .settling := by
  cases h with
  | drop hphase => exact hphase
  | @add _ source token _ hand =>
    refine absurd ?_ dropped
    have hkey : (source.withFinalizers (source.metadata.held ++ [token])).metadata.key =
        base.metadata.key := ClusterConfig.key_of_alike hand.alike
    unfold Act.dropped
    dsimp only
    rw [hkey, hand.guards_eq]
    refine List.filter_eq_nil_iff.mpr fun other mem => ?_
    rw [decide_eq_true_iff, Decidable.not_not]
    exact List.mem_append_left _ mem
  | _ => exact absurd rfl dropped

theorem phase_of_deletes (h : Deed lossy base target phase act) (deletes : act.deletes = true) :
    phase = .retiring := by
  cases h with
  | take => rfl
  | _ => cases deletes

theorem phase_of_onArtifact (h : Deed lossy base target phase act)
    (onArtifact : act.onArtifact = true) : phase = .retiring ∨ phase = .copying := by
  cases h with
  | look hphase => exact hphase
  | take => exact .inl rfl
  | create => exact .inr rfl
  | replace => exact .inr rfl
  | _ => cases onArtifact

theorem phase_of_onStatus (h : Deed lossy base target phase act) (onStatus : act.onStatus = true) :
    phase = .retiring ∨ phase = .recording := by
  cases h with
  | record hphase => exact hphase
  | _ => cases onStatus

theorem call?_of_telling (h : Deed lossy base target .telling act) : act.call? = none := by
  cases h with
  | tell => rfl
  | look hphase => rcases hphase with hphase | hphase <;> cases hphase
  | drop hphase => rcases hphase with hphase | hphase <;> cases hphase
  | record hphase => rcases hphase with hphase | hphase <;> cases hphase

/-- A copy is put up in a namespace of the target, while all tokens of the target are held. -/
theorem covers_of_placed (h : Deed lossy base target phase act) {place : ObjectKey}
    (placed : act.placed? = some place) :
    phase = .copying ∧ place.ns ∈ target.namespaces ∧
      ∀ token ∈ target.tokens, token ∈ act.guards base.metadata.key := by
  have hguards : ∀ {cluster ns source}, Covers cluster base target ns source →
      ∀ token ∈ target.tokens, token ∈ cluster.guards base.metadata.key := by
    intro cluster ns source covers token mem
    rw [covers.toAtHand.guards_eq]
    exact List.contains_iff_mem.mp (covers.tokens token mem)
  cases h with
  | create covers =>
    cases placed
    exact ⟨rfl, covers.goes, hguards covers⟩
  | replace covers _ _ _ hkey =>
    cases hkey.symm.trans (Option.some.inj placed)
    exact ⟨rfl, covers.goes, hguards covers⟩
  | _ => cases placed

theorem phase_of_placed (h : Deed lossy base target phase act) (placed : act.placed?.isSome) :
    phase = .copying := by
  obtain ⟨place, hplace⟩ := Option.isSome_iff_exists.mp placed
  exact (h.covers_of_placed hplace).1

end Deed

/-- Acts in the order of the phases keep to what a round for a source that stays keeps to. -/
theorem writesAhead_of_inPhases {acts : List (Act Cluster)} {start : Phase}
    (h : InPhases (Deed lossy base target) start acts) :
    WritesAhead base.metadata.key target acts where
  guarded act mem place placed := by
    obtain ⟨phase, hdeed⟩ := h.exists_of_mem mem
    exact (hdeed.covers_of_placed placed).2.2
  covered act mem place placed := by
    -- The tokens of the target are the one for all namespaces, or those of its namespaces.
    obtain ⟨phase, hdeed⟩ := h.exists_of_mem mem
    obtain ⟨-, goes, tokens⟩ := hdeed.covers_of_placed placed
    by_cases hall : target.all
    · refine .inr (tokens everyToken ?_)
      rw [TargetSet.tokens, if_pos hall]
      exact List.mem_singleton_self everyToken
    · refine .inl (tokens place.ns ?_)
      rwa [TargetSet.tokens, if_neg hall]
  deletes_first {first later} hsome added := by
    obtain ⟨phase, other, hfirst, hlater, hle⟩ := h.pair hsome
    obtain rfl := hfirst.phase_of_added added
    refine Bool.eq_false_iff.mpr fun hdeletes => ?_
    obtain rfl := hlater.phase_of_deletes hdeletes
    exact absurd hle (by decide)
  adds_first {first later} hsome placed := by
    obtain ⟨phase, other, hfirst, hlater, hle⟩ := h.pair hsome
    obtain rfl := hfirst.phase_of_placed placed
    refine Decidable.not_not.mp fun hadded => ?_
    obtain rfl := hlater.phase_of_added hadded
    exact absurd hle (by decide)
  drops_last {first next later} hsome placed dropped := by
    obtain ⟨phase, middle, other, hfirst, hnext, hlater, hle, hle'⟩ := h.triple hsome
    obtain rfl := hfirst.phase_of_placed placed
    refine Bool.eq_false_iff.mpr fun hartifact => ?_
    rcases hnext.phase_of_dropped dropped with rfl | rfl
    · exact absurd hle (by decide)
    · rcases hlater.phase_of_onArtifact hartifact with rfl | rfl <;> exact absurd hle' (by decide)
  records_last {first next later} hsome placed onStatus := by
    obtain ⟨phase, middle, other, hfirst, hnext, hlater, hle, hle'⟩ := h.triple hsome
    obtain rfl := hfirst.phase_of_placed placed
    rcases hnext.phase_of_onStatus onStatus with rfl | rfl
    · exact absurd hle (by decide)
    · cases other with
      | telling => exact hlater.call?_of_telling
      | _ => exact absurd hle' (by decide)

end Cluster

/-- Whichever calls fail, a round for a source that stays puts copies up only under tokens that
are stored, and it takes away, adds, puts up, drops and records in this order. -/
theorem a_round_guards_before_it_writes {may : Refusal → Prop} {simulation : Simulation}
    {source : ClusterConfig} {target : TargetSet} (undisturbed : simulation.Undisturbed may)
    (keyed : simulation.cluster.WellKeyed)
    (stored : simulation.cluster.sources[source.metadata.key]? = some source)
    (stays : source.isDeleting = false)
    (htarget : NamespaceList.target source.spec.namespaceList simulation.cluster.namespaces =
      target) :
    WritesAhead source.metadata.key target
      (simulation.acts (reconcile source.metadata.key)) :=
  Cluster.writesAhead_of_inPhases
    ((Cluster.reconcile_deeds keyed stored stays htarget).simulate undisturbed)

/-- A source that went to one namespace and is to go to two others. -/
def ClusterConfig.moving : ClusterConfig :=
  { ClusterConfig.trial "b,c" with
    metadata := { name := some "app-config", ns := some "default", finalizers := some ["a"] }
    status := some ⟨["a"]⟩ }

/-- A round for it, when the last namespace refuses its copy. -/
def Simulation.moving : Simulation where
  cluster := ({ namespaces := ["a", "b", "c"] } : Cluster).putSource ⟨"default", "app-config"⟩
    .moving
  rules := [{ on := "create ConfigMap c/*", refusal := some { code := 500 } }]

/-- It has both tokens stored before it puts up the first copy. -/
theorem both_tokens_are_stored_before_the_first_copy :
    ((Simulation.moving.acts (reconcile ⟨"default", "app-config"⟩)).filterMap Act.call?).map
        StoreCall.label =
      ["get_source default/app-config", "get ConfigMap a/app-config",
        "update_source default/app-config", "update_status default/app-config",
        "update_source default/app-config", "update_source default/app-config",
        "get ConfigMap b/app-config", "create ConfigMap b/app-config",
        "get ConfigMap c/app-config", "create ConfigMap c/app-config"] ∧
      WritesAhead ⟨"default", "app-config"⟩ ⟨["b", "c"], false⟩
        (Simulation.moving.acts (reconcile ⟨"default", "app-config"⟩)) := by
  refine ⟨by decide +kernel, ?_⟩
  exact @a_round_guards_before_it_writes (fun _ => True) .moving (.atVersion .moving 1)
    ⟨["b", "c"], false⟩ ⟨by simp [Simulation.moving], by simp⟩
    ((Cluster.keyed_empty _).putSource .moving) (by decide +kernel) rfl (by decide +kernel)

end ConfigFanout
