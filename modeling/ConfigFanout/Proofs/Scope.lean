import ConfigFanout.Proofs.Current

-- How far a round goes. It deletes only where the source went before or goes now, or, if the
-- source is on its way out, where it holds a token; it puts up only tokens of its target, and
-- drops a finalizer that looks like one of others only if the source names it as a namespace.
namespace ConfigFanout

/-- What a round knows of where it is to go. -/
structure Bearings where
  /-- The source as it was looked up. -/
  first : Option ClusterConfig := none
  /-- The source as a call gave it last. -/
  hand : Option ClusterConfig := none
  /-- The namespaces as they were listed last. -/
  live : Option (List String) := none

namespace Bearings

/-- What is known once a call is answered. -/
def learn (known : Bearings) :
    (request : StoreCall) → Except Error request.Answer → Bearings
  | .getSource _, .ok source => { known with first := some source, hand := some source }
  | .updateSource _, .ok source | .updateStatus _, .ok source => { known with hand := some source }
  | .listNamespaces, .ok live => { known with live := some live }
  | _, _ => known

/-- A target is the one of a list, which stands for the namespaces that were listed if it stands
for all of them. -/
def Aims (known : Bearings) (first : ClusterConfig) (target : TargetSet) : Prop :=
  ∃ live, (first.targetsAll = true → known.live = some live) ∧
    target = NamespaceList.target first.spec.namespaceList live

end Bearings

/-- Whether a source names a token as a namespace that is cleared in a round: one of an explicit
list, if it is on its way out, or one that was a target and is none now. -/
def ClusterConfig.Exposes (source : ClusterConfig) (target : TargetSet) (token : String) : Prop :=
  if source.isDeleting then target.all = false ∧ token ∈ target.namespaces
  else token ∈ NamespaceList.stale target.namespaces source.processed

instance (source : ClusterConfig) (target : TargetSet) (token : String) :
    Decidable (source.Exposes target token) := by
  unfold ClusterConfig.Exposes
  infer_instance

/-- The namespaces that a round may clear, by what it knows. -/
inductive Cleared (known : Bearings) (first hand : ClusterConfig) (target : TargetSet)
    (ns : String) : Prop
  /-- It was a target, and is none now. -/
  | stale : first.isDeleting = false → ns ∈ NamespaceList.stale target.namespaces first.processed →
    Cleared known first hand target ns
  /-- It is a target. -/
  | target : first.isDeleting = true → ns ∈ target.namespaces → Cleared known first hand target ns
  /-- The source held its token. -/
  | guarded : first.isDeleting = true → ns ∈ first.namespaceTokens →
    Cleared known first hand target ns
  /-- The source holds the token for all namespaces. -/
  | swept {live : List String} : first.isDeleting = true → hand.holds everyToken = true →
    known.live = some live → ns ∈ live → Cleared known first hand target ns

/-- The calls that are in the scope of a round, by what it knows. -/
inductive InScope (known : Bearings) : StoreCall → Prop
  /-- The source is looked up once. -/
  | fetch (key : ObjectKey) : known.first = none → InScope known (.getSource key)
  /-- A source that stays has the namespaces listed only if it goes everywhere. -/
  | list {first : ClusterConfig} : known.first = some first →
    (first.isDeleting = false → first.targetsAll = true) → InScope known .listNamespaces
  | look (kind : ArtifactKind) (place : ObjectKey) : InScope known (.getArtifact kind place)
  | create (kind : ArtifactKind) (artifact : Artifact kind) :
    InScope known (.createArtifact kind artifact)
  | replace (kind : ArtifactKind) (artifact : Artifact kind) :
    InScope known (.replaceArtifact kind artifact)
  /-- A token of the target is put up. -/
  | add {first hand : ClusterConfig} {target : TargetSet} {token : String} :
    known.first = some first → known.hand = some hand → known.Aims first target →
    first.isDeleting = false → token ∈ target.tokens →
    InScope known (.updateSource (hand.withFinalizers (hand.metadata.held ++ [token])))
  /-- A finalizer is dropped that is not foreign, unless the source exposes it. -/
  | drop {first hand : ClusterConfig} {target : TargetSet} {token : String} :
    known.first = some first → known.hand = some hand → known.Aims first target →
    (isForeignFinalizer token = true → first.Exposes target token) →
    InScope known (.updateSource (hand.withFinalizers (hand.metadata.held.filter (· ≠ token))))
  /-- The target is recorded. -/
  | record {first hand : ClusterConfig} {target : TargetSet} : known.first = some first →
    known.hand = some hand → known.Aims first target → first.isDeleting = false →
    InScope known (.updateStatus { hand with status := some ⟨target.namespaces⟩ })
  | take {first hand : ClusterConfig} {target : TargetSet} (kind : ArtifactKind)
    {place : ObjectKey} : known.first = some first → known.hand = some hand →
    known.Aims first target → Cleared known first hand target place.ns →
    InScope known (.deleteArtifact kind place)

/-- Someone who watches how far a round goes. -/
def Monitor.scope : Monitor Bearings where
  allows := InScope
  learns := Bearings.learn

/-- The source is not looked up again. -/
theorem InScope.first_learn {known : Bearings} {request : StoreCall} {first : ClusterConfig}
    (h : InScope known request) (hfirst : known.first = some first)
    (answer : Except Error request.Answer) : (known.learn request answer).first = some first := by
  cases h with
  | fetch _ hnone => exact absurd (hnone.symm.trans hfirst) nofun
  | _ => cases answer <;> exact hfirst

/-- A round for a source that was looked up goes on with the source at hand. -/
structure Bearings.At (first : ClusterConfig) (target : TargetSet) (source : ClusterConfig)
    (known : Bearings) : Prop where
  fetched : known.first = some first
  hand : known.hand = some source
  aims : known.Aims first target

namespace Bearings.At

variable {first source : ClusterConfig} {target : TargetSet} {known : Bearings}

/-! ## The parts of a round -/

/-- A call that gives the source gives the one that the round goes on with. -/
theorem give (h : At first target source known) (stored : ClusterConfig) :
    At first target stored { known with hand := some stored } :=
  ⟨h.fetched, rfl, h.aims⟩

theorem addToken_scope (h : At first target source known) (stays : first.isDeleting = false)
    {token : String} (mem : token ∈ target.tokens) :
    (source.addToken token).Passes Monitor.scope.judge known (At first target) :=
  ClusterConfig.passes_addToken (fun _ => h) fun _ =>
    Monitor.call_returns (.add h.fetched h.hand h.aims stays mem) h.give

theorem dropToken_scope (h : At first target source known) {token : String}
    (hforeign : isForeignFinalizer token = true → first.Exposes target token) :
    (source.dropToken token).Passes Monitor.scope.judge known (At first target) :=
  ClusterConfig.passes_dropToken (fun _ => h) fun _ =>
    Monitor.call_returns (.drop h.fetched h.hand h.aims hforeign) h.give

theorem recordProcessed_scope (h : At first target source known)
    (stays : first.isDeleting = false) :
    (source.recordProcessed target.namespaces).Passes Monitor.scope.judge known
      (At first target) :=
  ClusterConfig.passes_recordProcessed (fun _ => h) fun _ =>
    Monitor.call_returns (.record h.fetched h.hand h.aims stays) h.give

/-- Taking a copy away tells nothing of where to go. -/
theorem withdraw_scope (h : At first target source known) {ns : String}
    (hns : Cleared known first source target ns) {keeps : Bearings → Prop} (hk : keeps known) :
    (source.withdraw source.spec.kind ns).Passes Monitor.scope.judge known fun _ => keeps := by
  refine ClusterConfig.passes_withdraw trivial fun _ =>
    Monitor.call_finds (.look _ _) (fun _ => hk) fun existing => ?_
  exact ⟨fun _ => hk, fun _ =>
    Monitor.call_finds (.take _ h.fetched h.hand h.aims hns) (fun _ => hk) fun _ => hk⟩

end Bearings.At

theorem synchronize_scope (source : ClusterConfig) (kind : ArtifactKind) (ns : String)
    {keeps : Bearings → Prop} {known : Bearings} (hk : keeps known) :
    (source.synchronize kind ns).Passes Monitor.scope.judge known fun _ => keeps := by
  refine ClusterConfig.passes_synchronize trivial fun _ =>
    Monitor.call_finds (.look _ _) (fun _ => ?_) fun existing => ?_
  · exact Monitor.call_returns (.create _ _) fun _ => hk
  · exact ⟨fun _ _ => trivial, fun _ _ => hk, fun _ _ _ =>
      Monitor.call_returns (.replace _ _) fun _ => hk⟩

/-! ## Whole rounds -/

/-- What is known once the source was looked up. -/
def Bearings.of (source : ClusterConfig) : Bearings :=
  { first := some source, hand := some source }

/-- What a list stands for is the target. -/
theorem resolve_scope (source : ClusterConfig) :
    (resolve source.spec.namespaceList).Passes Monitor.scope.judge (.of source)
      fun target known => known.At source target source ∧ target.all = source.targetsAll := by
  refine passes_resolve (fun explicit => ?_) fun every => ?_
  · refine ⟨⟨rfl, rfl, [], fun hall => ?_, ?_⟩, explicit.symm⟩
    · exact absurd (explicit.symm.trans hall) Bool.false_ne_true
    · rw [NamespaceList.target, explicit]
      rfl
  · refine Monitor.call_returns (.list rfl fun _ => every) fun live => ?_
    refine ⟨⟨rfl, rfl, live, fun _ => rfl, ?_⟩, every.symm⟩
    rw [NamespaceList.target, if_pos every]

theorem applies_at {first : ClusterConfig} (stays : first.isDeleting = false)
    (target : TargetSet) :
    Monitor.scope.judge.Applies target first.processed fun _ => Bearings.At first target where
  withdraw h mem := h.withdraw_scope (.stale stays mem) h
  drop h hforeign := by
    refine h.dropToken_scope fun hlooks => ?_
    rw [ClusterConfig.Exposes, stays]
    exact hforeign hlooks
  record h := h.recordProcessed_scope stays
  add h mem := h.addToken_scope stays mem
  copy h _ := synchronize_scope _ _ _ h

/-- All is cleared in a sweep that the target or the token for all namespaces calls for. -/
theorem departs_at {first : ClusterConfig} (leaves : first.isDeleting = true) {target : TargetSet}
    (hall : target.all = first.targetsAll) :
    Monitor.scope.judge.Departs first target (Bearings.At first target)
      fun live source known => known.At first target source ∧
        source.holds everyToken = true ∧ known.live = some live where
  withdraw h hns := h.withdraw_scope (hns.elim (.target leaves) (.guarded leaves)) h
  drop h hforeign := by
    refine h.dropToken_scope fun hlooks => ?_
    rw [ClusterConfig.Exposes, if_pos leaves]
    exact hforeign hlooks
  list {source known} h explicit held := by
    refine Monitor.call_returns (.list h.fetched fun stays => ?_) fun live => ?_
    · exact absurd (leaves.symm.trans stays) (by simp)
    -- The target of an explicit list stays the same, whatever is listed now.
    · obtain ⟨before, -, htarget⟩ := h.aims
      have hexplicit : ¬ first.targetsAll = true := by simp [← hall, explicit]
      exact ⟨⟨h.fetched, h.hand, before, fun hevery => absurd hevery hexplicit, htarget⟩, held, rfl⟩
  sweep h mem := h.1.withdraw_scope (.swept leaves h.2.1 h.2.2 mem) h
  swept h := h.1

/-- A round is in its scope once the source was looked up. -/
theorem round_scope (source : ClusterConfig) : source.round.Obeys .scope (.of source) := by
  refine ClusterConfig.passes_round (fun stays => ?_) fun leaves => ?_
  · refine ClusterConfig.passes_apply ((resolve_scope source).mono ?_)
    rintro target known ⟨h, -⟩
    exact ⟨_, applies_at stays target, h, fun _ _ _ _ => trivial⟩
  · refine ClusterConfig.passes_cleanup ((resolve_scope source).mono ?_)
    rintro target known ⟨h, hall⟩
    exact ⟨_, _, departs_at leaves hall, h, fun _ _ _ => trivial⟩

/-- Each call of a round is in its scope, whatever the calls before it were answered. -/
theorem reconcile_scope (key : ObjectKey) : (reconcile key).Obeys .scope {} :=
  Monitor.obeys_reconcile (.fetch key rfl) round_scope

/-! ## Where a round goes, as long as nobody else writes -/

@[simp] theorem Bearings.learn_error (known : Bearings) (request : StoreCall) (error : Error) :
    known.learn request (.error error) = known := by
  cases request <;> rfl

/-- A round for a source knows how things are, and where the source is to go. -/
structure Oriented (base : ClusterConfig) (origin : Cluster) (known : Knowledge × Bearings)
    (cluster : Cluster) : Prop where
  current : known.1.Current base cluster
  spares : Cluster.Spares base origin cluster
  hand : known.2.hand = known.1.hand
  first : ∀ first, known.2.first = some first → first = base
  live : ∀ live, known.2.live = some live → live = origin.namespaces
  unfetched : known.1.hand = none → cluster = origin

namespace Oriented

variable {base first : ClusterConfig} {origin cluster after : Cluster}
  {known : Knowledge × Bearings} {target : TargetSet} {may : Refusal → Prop}

theorem start (keyed : origin.WellKeyed)
    (stored : origin.sources[base.metadata.key]? = some base) :
    Oriented base origin ({}, {}) origin where
  current := .start keyed stored
  spares := .refl base origin
  hand := rfl
  first := by simp
  live := by simp
  unfetched _ := rfl

/-- The source at hand is the stored one, if that is not gone. -/
theorem stored_eq (h : Oriented base origin known cluster) {hand : ClusterConfig}
    (hhand : known.2.hand = some hand) : hand.bare = base.bare ∧
      ∀ stored, cluster.sources[base.metadata.key]? = some stored → stored = hand :=
  h.current.hand hand (h.hand ▸ hhand)

/-- The target of a round is the one of the source as it was stored at first. -/
theorem target_eq (h : Oriented base origin known cluster)
    (hfirst : known.2.first = some first) (aims : known.2.Aims first target) :
    first = base ∧
      target = NamespaceList.target base.spec.namespaceList origin.namespaces := by
  obtain rfl := h.first first hfirst
  obtain ⟨live, hlive, rfl⟩ := aims
  refine ⟨rfl, ?_⟩
  cases hall : first.targetsAll with
  | true => rw [h.live live (hlive hall)]
  | false => rw [NamespaceList.target_of_explicit hall, NamespaceList.target_of_explicit hall]

/-- A write of the finalizers puts them on the stored source, which is the one at hand. -/
theorem updateSource_eq (h : Oriented base origin known cluster) {hand written : ClusterConfig}
    {finalizers : List String} (hhand : known.2.hand = some hand)
    (ha : cluster.answer (.updateSource (hand.withFinalizers finalizers)) =
      (.ok written, after)) :
    cluster.sources[base.metadata.key]? = some hand ∧
      written = (hand.withFinalizers finalizers).atVersion cluster.nextVersion ∧
      after = cluster.replaceSource (hand.withFinalizers finalizers) := by
  obtain ⟨alike, hstored_eq⟩ := h.stored_eq hhand
  have hkey : hand.metadata.key = base.metadata.key := ClusterConfig.key_of_alike alike
  cases Cluster.grants_of_answer ha with
  | @updateSource _ stored hstored =>
    have hplace : cluster.sources[base.metadata.key]? = some stored := hkey ▸ hstored
    obtain rfl := hstored_eq stored hplace
    exact ⟨hplace, rfl, rfl⟩

/-- So does a write of the status. -/
theorem updateStatus_eq (h : Oriented base origin known cluster) {hand written : ClusterConfig}
    {status : Option ClusterConfigStatus} (hhand : known.2.hand = some hand)
    (ha : cluster.answer (.updateStatus { hand with status }) = (.ok written, after)) :
    cluster.sources[base.metadata.key]? = some hand ∧
      written = { hand with status }.atVersion cluster.nextVersion ∧
      after = cluster.putSource base.metadata.key { hand with status } := by
  obtain ⟨alike, hstored_eq⟩ := h.stored_eq hhand
  have hkey : hand.metadata.key = base.metadata.key := ClusterConfig.key_of_alike alike
  cases Cluster.grants_of_answer ha with
  | @updateStatus _ stored hstored =>
    have hplace : cluster.sources[base.metadata.key]? = some stored := hkey ▸ hstored
    obtain rfl := hstored_eq stored hplace
    exact ⟨hplace, rfl, by rw [← hkey]⟩

theorem learn_error (h : Oriented base origin known cluster) (request : StoreCall)
    (error : Error) : Oriented base origin
      (known.1.learn request (.error error), known.2.learn request (.error error)) cluster where
  current := h.current.forget h.current.keyed rfl (Knowledge.hand_learn_error ..)
    (Knowledge.seen_learn_error ..)
  spares := h.spares
  hand := by simpa using h.hand
  first := by simpa using h.first
  live := by simpa using h.live
  unfetched hnone := h.unfetched (Knowledge.hand_of_learn hnone)

theorem step (h : Oriented base origin known cluster)
    (stored : origin.sources[base.metadata.key]? = some base) {request : StoreCall}
    {value : request.Answer} (warranted : Warranted base.metadata.key known.1 request)
    (ha : cluster.answer request = (.ok value, after)) :
    Oriented base origin
      (known.1.learn request (.ok value), known.2.learn request (.ok value)) after := by
  obtain ⟨hcurrent, hspares⟩ := h.current.step warranted ha
  refine ⟨hcurrent, h.spares.trans hspares, ?_, ?_, ?_, fun hnone => ?_⟩
  · cases request <;> first | exact h.hand | rfl
  · intro first hfirst
    cases request with
    | getSource key =>
      -- The source is looked up before anything is written.
      cases warranted with
      | fetch hknown =>
        obtain rfl := h.unfetched (by rw [hknown])
        rw [Cluster.answer_getSource stored] at ha
        cases ha
        exact (Option.some.inj hfirst).symm
    | _ => exact h.first first hfirst
  · intro live hlive
    cases request with
    | listNamespaces =>
      cases Cluster.grants_of_answer ha
      cases hlive
      exact h.spares.namespaces
    | _ => exact h.live live hlive
  · have hbefore := Knowledge.hand_of_learn hnone
    rw [← h.unfetched hbefore, ← warranted.unchanged hbefore cluster, ha]

/-- A round keeps its bearings where calls may be refused and nobody else writes. -/
theorem faulty (h : Oriented base origin known cluster)
    (stored : origin.sources[base.metadata.key]? = some base) {request : StoreCall}
    {answer : Except Error request.Answer}
    (allowed : ((Monitor.round base.metadata.key).both .scope).allows known request)
    (ha : (Cluster.faulty may).answers request cluster answer after) :
    Oriented base origin
      (((Monitor.round base.metadata.key).both .scope).learns known request answer) after := by
  rcases ha with ha | ⟨refusal, -, rfl, rfl⟩
  · cases answer with
    | ok value => exact h.step stored allowed.1 ha.symm
    | error error =>
      obtain rfl := Cluster.eq_of_answer_eq_error ha.symm
      exact h.learn_error request error
  · exact h.learn_error request _

end Oriented

/-- A round is watched by what it knows and by where it goes. -/
theorem reconcile_watched (key : ObjectKey) :
    (reconcile key).Obeys ((Monitor.round key).both .scope) ({}, {}) :=
  (reconcile_obeys key).both (reconcile_scope key)

/-- What a round keeps that is undisturbed, whichever calls fail, it keeps to its end, if it keeps
it at each call that succeeds and at each one that fails. Of its acts holds what does of each. -/
theorem Simulation.Undisturbed.watched {simulation : Simulation} {base : ClusterConfig}
    {may : Refusal → Prop} (h : simulation.Undisturbed may)
    (keyed : simulation.cluster.WellKeyed)
    (stored : simulation.cluster.sources[base.metadata.key]? = some base)
    (keeps : Knowledge × Bearings → Cluster → Prop) (allowed : Act Cluster → Prop)
    (start : keeps ({}, {}) simulation.cluster)
    (granted : ∀ {known cluster request value after},
      Oriented base simulation.cluster known cluster → keeps known cluster →
      Warranted base.metadata.key known.1 request → InScope known.2 request →
      cluster.answer request = (.ok value, after) → allowed (.asked cluster request (.ok value)) ∧
        keeps (known.1.learn request (.ok value), known.2.learn request (.ok value)) after)
    (failed : ∀ {known cluster} (request : StoreCall) (error : Error), keeps known cluster →
      allowed (.asked cluster request (.error error)) ∧
        keeps (known.1.learn request (.error error), known.2.learn request (.error error)) cluster)
    (told : ∀ event, allowed (.told event)) :
    (∀ act ∈ simulation.acts (ConfigFanout.reconcile base.metadata.key), allowed act) ∧
      ∃ known, Oriented base simulation.cluster known
          (simulation.reconcile base.metadata.key).2.cluster ∧
        keeps known (simulation.reconcile base.metadata.key).2.cluster := by
  have hfits : ((Monitor.round base.metadata.key).both .scope).Fits (Cluster.faulty may)
      (fun _ known cluster => Oriented base simulation.cluster known cluster ∧ keeps known cluster)
      fun _ => allowed := by
    refine ⟨fun {_ known cluster request answer after} hstate hallows ha => ?_,
      fun event hstate => ⟨told event, hstate⟩⟩
    have horiented := hstate.1.faulty stored hallows ha
    rcases ha with ha | ⟨refusal, -, rfl, rfl⟩
    · cases answer with
      | ok value =>
        obtain ⟨hact, hkeeps⟩ := granted hstate.1 hstate.2 hallows.1 hallows.2 ha.symm
        exact ⟨hact, horiented, hkeeps⟩
      | error error =>
        obtain rfl := Cluster.eq_of_answer_eq_error ha.symm
        obtain ⟨hact, hkeeps⟩ := failed request error hstate.2
        exact ⟨hact, horiented, hkeeps⟩
    · obtain ⟨hact, hkeeps⟩ := failed request _ hstate.2
      exact ⟨hact, horiented, hkeeps⟩
  have hstart : Oriented base simulation.cluster ({}, {}) simulation.cluster ∧
      keeps ({}, {}) simulation.cluster := ⟨.start keyed stored, start⟩
  have htraces : (ConfigFanout.reconcile base.metadata.key).Traces (Cluster.faulty may)
      simulation.cluster fun acts _ after => Each (fun _ => allowed) [] acts ∧
        ∃ known, Oriented base simulation.cluster known after ∧ keeps known after :=
    (reconcile_watched base.metadata.key).ends hfits hstart
  obtain ⟨hacts, hends⟩ := htraces.simulate h
  refine ⟨fun act mem => ?_, hends⟩
  obtain ⟨before, later, heq⟩ := List.append_of_mem mem
  exact hacts before act later heq

end ConfigFanout
