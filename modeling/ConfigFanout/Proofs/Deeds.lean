import ConfigFanout.Proofs.Teardown
import ConfigFanout.Proofs.Traces
import ConfigFanout.Proofs.Walks

-- What a round does, act by act, with all that is known of the cluster at that moment, and in
-- which phase of the round. A phase that is over does not come back.
namespace ConfigFanout

/-! ## Phases -/

/-- The phases of a round for a source that stays. -/
inductive Phase where
  /-- What is stale is found and taken away. -/
  | retiring
  /-- The tokens of the target are added. -/
  | guarding
  /-- Copies are brought up to date. -/
  | copying
  /-- Tokens that guard nothing any more are dropped. -/
  | settling
  /-- The status is written. -/
  | recording
  /-- Events are published. -/
  | telling
  deriving DecidableEq

namespace Phase

/-- The place of a phase in the round. -/
def number : Phase → Nat
  | .retiring => 0
  | .guarding => 1
  | .copying => 2
  | .settling => 3
  | .recording => 4
  | .telling => 5

instance : LE Phase := ⟨fun phase other => phase.number ≤ other.number⟩

instance (phase other : Phase) : Decidable (phase ≤ other) :=
  inferInstanceAs (Decidable (phase.number ≤ other.number))

theorem le_refl (phase : Phase) : phase ≤ phase := Nat.le_refl phase.number

theorem le_trans {first second third : Phase} (h : first ≤ second) (h' : second ≤ third) :
    first ≤ third :=
  Nat.le_trans h h'

/-- The first phase that may follow an act of a phase: the status is written once at most. -/
def next : Phase → Phase
  | .recording => .telling
  | phase => phase

theorem le_next (phase : Phase) : phase ≤ phase.next := by
  cases phase <;> decide

theorem le_telling (phase : Phase) : phase ≤ .telling := by
  cases phase <;> decide

end Phase

/-- Acts in the order of the phases, from a phase on, where `deed` says which acts belong to
which phase. -/
inductive InPhases {σ : Type} (deed : Phase → Act σ → Prop) : Phase → List (Act σ) → Prop
  | nil {start : Phase} : InPhases deed start []
  | cons {start phase : Phase} {act : Act σ} {rest : List (Act σ)} : start ≤ phase →
    deed phase act → InPhases deed phase.next rest → InPhases deed start (act :: rest)

namespace InPhases

variable {σ : Type} {deed : Phase → Act σ → Prop} {start phase : Phase} {act : Act σ}
  {acts later : List (Act σ)}

theorem of_le (h : InPhases deed phase acts) (hle : start ≤ phase) : InPhases deed start acts := by
  cases h with
  | nil => exact .nil
  | cons hphase hdeed hrest => exact .cons (Phase.le_trans hle hphase) hdeed hrest

theorem singleton (h : deed phase act) : InPhases deed phase [act] :=
  .cons phase.le_refl h .nil

/-- Acts of one phase come before all those from that phase on. -/
theorem append (h : ∀ act ∈ acts, deed phase act) (repeats : phase.next = phase)
    (hlater : InPhases deed phase later) : InPhases deed phase (acts ++ later) := by
  induction acts with
  | nil => exact hlater
  | cons act rest ih =>
    obtain ⟨hact, hrest⟩ := List.forall_mem_cons.mp h
    refine .cons phase.le_refl hact ?_
    rw [repeats]
    exact ih hrest

/-- What belongs to the last phase may follow at any time. -/
theorem tell (h : InPhases deed start acts) (hlater : ∀ act ∈ later, deed .telling act) :
    InPhases deed start (acts ++ later) := by
  induction h with
  | nil =>
    have htold : InPhases deed .telling (later ++ []) := append hlater rfl .nil
    rw [List.append_nil] at htold
    exact htold.of_le (Phase.le_telling _)
  | cons hle hdeed hrest ih => exact .cons hle hdeed ih

/-- Some of the acts are in the same order. -/
theorem sublist (h : InPhases deed start acts) {some : List (Act σ)}
    (hsome : some.Sublist acts) : InPhases deed start some := by
  induction h generalizing some with
  | nil =>
    rw [List.sublist_nil.mp hsome]
    exact .nil
  | cons hle hdeed hrest ih =>
    rcases List.sublist_cons_iff.mp hsome with hrest | ⟨tail, rfl, htail⟩
    · exact (ih hrest).of_le (Phase.le_trans hle (Phase.le_next _))
    · exact .cons hle hdeed (ih htail)

theorem exists_of_mem (h : InPhases deed start acts) (mem : act ∈ acts) :
    ∃ phase, deed phase act := by
  cases h.sublist (List.singleton_sublist.mpr mem) with
  | cons _ hact _ => exact ⟨_, hact⟩

end InPhases

/-- A part of one phase, and then what belongs to this phase or later ones. -/
theorem Program.Always.then {σ α β : Type} {around : Surroundings σ} {first : Program α}
    {second : α → Program β} {state : σ} {deed : Phase → Act σ → Prop} {phase later : Phase}
    {onDone : α → σ → Prop} {onFail : Error → σ → Prop}
    (h : first.Always around state (deed phase))
    (hends : first.Ensures around state onDone onFail) (repeats : phase.next = phase)
    (hle : phase ≤ later)
    (hnext : ∀ value after, onDone value after →
      (second value).Traces around after fun acts _ _ => InPhases deed later acts) :
    (first >>= second).Traces around state fun acts _ _ => InPhases deed phase acts := by
  refine Traces.bind h.traces hends (fun acts value after hacts hvalue => ?_)
    fun acts _ _ hacts _ => ?_
  · exact (hnext value after hvalue).mono fun later _ _ hlater =>
      .append hacts repeats (hlater.of_le hle)
  · rw [← List.append_nil acts]
    exact .append hacts repeats .nil

namespace Cluster

/-! ## Deeds -/

/-- The source at hand is as it is stored. -/
structure AtHand (cluster : Cluster) (base source : ClusterConfig) : Prop where
  stored : cluster.sources[base.metadata.key]? = some source
  alike : source.bare = base.bare

/-- The source at hand holds all tokens of its target, and goes to a namespace. -/
structure Covers (cluster : Cluster) (base : ClusterConfig) (target : TargetSet) (ns : String)
    (source : ClusterConfig) : Prop extends AtHand cluster base source where
  tokens : ∀ token ∈ target.tokens, source.holds token
  goes : ns ∈ target.namespaces

/-- What a round may do in which phase. A source on its way out is in the first one all the
time. A lossy store may say that there is no copy although there is. -/
inductive Deed (lossy : Prop) (base : ClusterConfig) (target : TargetSet) :
    Phase → Act Cluster → Prop
  /-- The source is looked up. -/
  | fetch {cluster : Cluster} {source : ClusterConfig} {answer : Except Error ClusterConfig} :
    cluster.sources[base.metadata.key]? = some source →
    Deed lossy base target .retiring (.asked cluster (.getSource base.metadata.key) answer)
  /-- All namespaces are listed. -/
  | list {cluster : Cluster} {answer : Except Error (List String)} :
    Deed lossy base target .retiring (.asked cluster .listNamespaces answer)
  /-- A copy is looked up, to take it away or to bring it up to date. -/
  | look {cluster : Cluster} {phase : Phase} {ns : String}
      {answer : Except Error (Artifact base.spec.kind)} : phase = .retiring ∨ phase = .copying →
    Deed lossy base target phase
      (.asked cluster (.getArtifact base.spec.kind ⟨ns, base.metadata.anyName⟩) answer)
  /-- A copy that belongs to no other source is deleted. -/
  | take {cluster : Cluster} {ns : String} {copy : Artifact base.spec.kind}
      {answer : Except Error Unit} :
    (cluster.artifacts base.spec.kind)[(⟨ns, base.metadata.anyName⟩ : ObjectKey)]? = some copy →
    copy.otherOwner? base = none →
    Deed lossy base target .retiring
      (.asked cluster (.deleteArtifact base.spec.kind ⟨ns, base.metadata.anyName⟩) answer)
  /-- A token that is held is dropped. -/
  | drop {cluster : Cluster} {phase : Phase} {source : ClusterConfig} {token : String}
      {answer : Except Error ClusterConfig} : phase = .retiring ∨ phase = .settling →
    cluster.AtHand base source → source.holds token = true →
    Deed lossy base target phase (.asked cluster (.updateSource (source.withFinalizers
      (source.metadata.held.filter (· ≠ token)))) answer)
  /-- A token that is not held is added. -/
  | add {cluster : Cluster} {source : ClusterConfig} {token : String}
      {answer : Except Error ClusterConfig} :
    cluster.AtHand base source → source.holds token = false → token ∈ target.tokens →
    Deed lossy base target .guarding (.asked cluster (.updateSource (source.withFinalizers
      (source.metadata.held ++ [token]))) answer)
  /-- A copy is put up where none was found. -/
  | create {cluster : Cluster} {ns : String} {source : ClusterConfig}
      {answer : Except Error (Artifact base.spec.kind)} : cluster.Covers base target ns source →
    ((cluster.artifacts base.spec.kind)[(⟨ns, base.metadata.anyName⟩ : ObjectKey)]? = none ∨
      lossy) →
    Deed lossy base target .copying (.asked cluster (.createArtifact base.spec.kind
      (base.newCopy base.spec.kind base.metadata.anyName ns)) answer)
  /-- A copy that belongs to no other source and is not up to date is replaced. -/
  | replace {cluster : Cluster} {ns : String} {source : ClusterConfig}
      {copy revised : Artifact base.spec.kind} {answer : Except Error (Artifact base.spec.kind)} :
    cluster.Covers base target ns source →
    (cluster.artifacts base.spec.kind)[(⟨ns, base.metadata.anyName⟩ : ObjectKey)]? = some copy →
    copy.otherOwner? base = none → base.revise copy = some revised →
    revised.metadata.key = ⟨ns, base.metadata.anyName⟩ →
    Deed lossy base target .copying (.asked cluster (.replaceArtifact base.spec.kind revised)
      answer)
  /-- The status is written, unless it says the same already. -/
  | record {cluster : Cluster} {phase : Phase} {source : ClusterConfig}
      {answer : Except Error ClusterConfig} : phase = .retiring ∨ phase = .recording →
    cluster.AtHand base source → source.status ≠ some ⟨target.namespaces⟩ →
    Deed lossy base target phase
      (.asked cluster (.updateStatus { source with status := some ⟨target.namespaces⟩ }) answer)
  /-- An event is published. -/
  | tell {event : Event} : Deed lossy base target .telling (.told event)

/-! ## The parts -/

variable {may : Refusal → Prop} {base source : ClusterConfig} {origin cluster : Cluster}
  {target : TargetSet} {holdings : Holdings base.spec.kind} {phase : Phase}

/-- Asks that all that is done is a deed of a phase. -/
def deeds (may : Refusal → Prop) (base : ClusterConfig) (target : TargetSet) (phase : Phase) :
    Judge Cluster :=
  (faulty may).allowing (Deed (Refusal.Loses may) base target phase)

/-- A look at an artifact changes nothing and shows what is stored, unless it is refused. -/
theorem deed_look {ns : String} {missing : Cluster → Prop}
    {holds : Artifact base.spec.kind → Cluster → Prop}
    (hphase : phase = .retiring ∨ phase = .copying)
    (hmissing : (cluster.artifacts base.spec.kind)[(⟨ns, base.metadata.anyName⟩ : ObjectKey)]? =
      none ∨ Refusal.Loses may → missing cluster)
    (hfound : ∀ existing, (cluster.artifacts base.spec.kind)[
      (⟨ns, base.metadata.anyName⟩ : ObjectKey)]? = some existing → holds existing cluster) :
    (deeds may base target phase).call
      (.getArtifact base.spec.kind ⟨ns, base.metadata.anyName⟩) cluster
      ((deeds may base target phase).finds missing holds) := by
  have hlook : (Program.ask (.getArtifact base.spec.kind ⟨ns, base.metadata.anyName⟩)).Ensures
      (faulty may) cluster holds fun error after =>
        (deeds may base target phase).finds missing holds (.error error) after := by
    refine cluster.getArtifact_ensures _ _ hfound (fun hnone => ?_) fun request refusal hmay => ?_
    · exact Judge.finds_error (hmissing (.inl hnone)) trivial
    · rw [Judge.finds]
      split
      · next hlost => exact hmissing (.inr (StoreCall.loses_of_isNotFound hmay hlost))
      · trivial
  intro answer after ha
  have hanswer := hlook answer after ha
  exact ⟨.look hphase, by cases answer <;> exact hanswer⟩

/-- Taking a copy away is a look and at most one write, of a copy that may be taken. -/
theorem withdraw_deeds (alike : source.bare = base.bare) (cluster : Cluster) (ns : String) :
    (source.withdraw base.spec.kind ns).Always (faulty may) cluster
      (Deed (Refusal.Loses may) base target .retiring) := by
  refine ClusterConfig.passes_withdraw trivial fun _ => ?_
  rw [ClusterConfig.anyName_of_alike alike]
  refine deed_look (.inl rfl) (fun _ => trivial)
    fun existing found => ⟨fun _ => trivial, fun own => ?_⟩
  rw [Artifact.otherOwner?_of_alike _ alike] at own
  exact Program.allowing_finds (fun _ => .take found own) (fun _ => trivial) fun _ _ => trivial

/-- Bringing a copy up to date is a look and at most one write, of a copy that may be written. -/
theorem synchronize_deeds {ns : String} (covers : cluster.Covers base target ns source)
    (keyed : cluster.WellKeyed) :
    (source.synchronize base.spec.kind ns).Always (faulty may) cluster
      (Deed (Refusal.Loses may) base target .copying) := by
  have alike := covers.alike
  refine ClusterConfig.passes_synchronize trivial fun _ => ?_
  rw [ClusterConfig.anyName_of_alike alike]
  refine deed_look (.inr rfl) (fun absent => ?_) fun existing found =>
    ⟨fun _ _ => trivial, fun _ _ => trivial, fun revised own hrevise => ?_⟩
  · rw [ClusterConfig.newCopy_of_alike alike]
    exact Program.allowing_returns (fun _ => .create covers absent) fun _ _ => trivial
  · have hkey := (existing.revise_eq_some hrevise).1
    rw [keyed.artifacts _ _ existing found] at hkey
    rw [ClusterConfig.revise_of_alike alike] at hrevise
    rw [Artifact.otherOwner?_of_alike _ alike] at own
    exact Program.allowing_returns (fun _ => .replace covers found own hrevise hkey)
      fun _ _ => trivial

theorem dropToken_deeds {token : String} (hphase : phase = .retiring ∨ phase = .settling)
    (hand : source.holds token = true → cluster.AtHand base source) :
    (source.dropToken token).Always (faulty may) cluster
      (Deed (Refusal.Loses may) base target phase) :=
  ClusterConfig.passes_dropToken (fun _ => trivial) fun held =>
    Program.allowing_returns (fun _ => .drop hphase (hand held) held) fun _ _ => trivial

theorem addToken_deeds {token : String} (hand : cluster.AtHand base source)
    (mem : token ∈ target.tokens) :
    (source.addToken token).Always (faulty may) cluster
      (Deed (Refusal.Loses may) base target .guarding) :=
  ClusterConfig.passes_addToken (fun _ => trivial) fun unheld =>
    Program.allowing_returns (fun _ => .add hand unheld mem) fun _ _ => trivial

theorem recordProcessed_deeds (hphase : phase = .retiring ∨ phase = .recording)
    (hand : cluster.AtHand base source) :
    (source.recordProcessed target.namespaces).Always (faulty may) cluster
      (Deed (Refusal.Loses may) base target phase) :=
  ClusterConfig.passes_recordProcessed (fun _ => trivial) fun hdiffers =>
    Program.allowing_returns (fun _ => .record hphase hand hdiffers) fun _ _ => trivial

theorem resolve_deeds (raw : String) :
    (resolve raw).Always (faulty may) cluster
      (Deed (Refusal.Loses may) base target .retiring) :=
  passes_resolve (fun _ => trivial) fun _ =>
    Program.allowing_returns (fun _ => .list) fun _ _ => trivial

namespace Underway

theorem atHand (h : Underway base origin holdings source cluster) : cluster.AtHand base source :=
  ⟨h.stored, h.alike⟩

/-- A round goes on, with some holdings. -/
def Ongoing (base : ClusterConfig) (origin : Cluster) (source : ClusterConfig)
    (cluster : Cluster) : Prop :=
  ∃ holdings : Holdings base.spec.kind, Underway base origin holdings source cluster

theorem dropToken_ongoing (stays : base.isDeleting = false)
    (hphase : phase = .retiring ∨ phase = .settling)
    (h : Ongoing base origin source cluster) (token : String) :
    (source.dropToken token).Passes (deeds may base target phase) cluster
      (Ongoing base origin) := by
  obtain ⟨holdings, h⟩ := h
  exact (dropToken_deeds hphase fun _ => h.atHand).passes (h.dropToken_ensures stays token)
    fun _ _ hnext => ⟨_, hnext⟩

/-- What is stale is taken away with the source as it is stored then. -/
theorem retires_deeds (stays : base.isDeleting = false) (target : TargetSet)
    (processed : List String) :
    (deeds may base target .retiring).Retires target processed
      (fun _ => Ongoing base origin) fun _ => Ongoing base origin where
  withdraw {_ source cluster ns} h _ := by
    obtain ⟨holdings, h⟩ := h
    rw [ClusterConfig.kind_of_alike h.alike]
    exact (withdraw_deeds h.alike cluster ns).passes (h.withdraw_ensures ns)
      fun _ _ ⟨_, _, _, hnext⟩ => ⟨_, hnext⟩
  drop h _ := dropToken_ongoing stays (.inl rfl) h _
  record h := by
    obtain ⟨holdings, h⟩ := h
    exact (recordProcessed_deeds (.inl rfl) h.atHand).passes (h.recordProcessed_ensures _)
      fun _ _ hnext => ⟨_, hnext⟩

theorem retire_deeds (h : Underway base origin holdings source cluster)
    (stays : base.isDeleting = false) (target : TargetSet) :
    (source.retire target).Always (faulty may) cluster
      (Deed (Refusal.Loses may) base target .retiring) :=
  (ClusterConfig.passes_retire (retires_deeds stays target _) (fun _ => ⟨_, h⟩)
    fun _ => ⟨_, h⟩).always

theorem addTokens_deeds (h : Underway base origin holdings source cluster)
    (stays : base.isDeleting = false) (target : TargetSet) :
    ((source.missingTokens target.tokens).foldlM ClusterConfig.addToken source).Always
      (faulty may) cluster (Deed (Refusal.Loses may) base target .guarding) := by
  refine (ClusterConfig.passes_addTokens (Ongoing base origin) ?_ ⟨_, h⟩).always
  rintro token mem source cluster ⟨holdings, h⟩
  exact (addToken_deeds h.atHand mem).passes (h.addToken_ensures stays token)
    fun _ _ hnext => ⟨_, hnext⟩

theorem settle_deeds (h : Underway base origin holdings source cluster)
    (stays : base.isDeleting = false) (target : TargetSet) :
    (if target.all then source.dropTokens source.namespaceTokens
      else pure source : Program ClusterConfig).Always (faulty may) cluster
      (Deed (Refusal.Loses may) base target .settling) :=
  (ClusterConfig.passes_settle (fun h _ => dropToken_ongoing stays (.inr rfl) h _)
    ⟨_, h⟩).always

theorem copyTo_deeds (h : Underway base origin holdings source cluster)
    (tokens : ∀ token ∈ target.tokens, token ∈ holdings.tokens) :
    (source.copyTo target.namespaces).Always (faulty may) cluster
      (Deed (Refusal.Loses may) base target .copying) := by
  refine (ClusterConfig.passes_copyTo (fun _ cluster => ∃ holdings,
    Underway base origin holdings source cluster ∧ ∀ token ∈ target.tokens, token ∈ holdings.tokens)
    [] ?_ ⟨_, h, tokens⟩).always
  rintro ns mem _ cluster ⟨holdings, h, tokens⟩
  rw [ClusterConfig.kind_of_alike h.alike]
  have covers : cluster.Covers base target ns source := {
    toAtHand := h.atHand
    tokens := fun token mem => (h.holds_eq token).mpr (tokens token mem)
    goes := mem }
  exact (synchronize_deeds covers h.reaches.keyed).passes (h.synchronize_ensures ns)
    fun _ _ ⟨_, hnext⟩ => ⟨_, hnext, tokens⟩

/-- A round for a source that stays goes through its phases, whether it succeeds or fails. -/
theorem apply_deeds (h : Underway base origin holdings source cluster)
    (stays : base.isDeleting = false)
    (htarget : NamespaceList.target base.spec.namespaceList origin.namespaces = target) :
    source.apply.Traces (faulty may) cluster
      fun acts _ _ => InPhases (Deed (Refusal.Loses may) base target) .retiring acts := by
  -- What each stretch ensures, with or without faults, is what the next one needs to know of the
  -- source at hand.
  unfold ClusterConfig.apply
  rw [ClusterConfig.spec_of_alike h.alike]
  refine (resolve_deeds _).then (cluster.resolve_ensures _) rfl (Phase.le_refl _) ?_
  rintro resolved after ⟨rfl, rfl⟩
  rw [h.reaches.spares.namespaces, htarget]
  refine (h.retire_deeds stays target).then (h.retire_ensures stays target) rfl
    (by decide : Phase.retiring ≤ .guarding) ?_
  rintro ⟨retired, pruned⟩ after ⟨-, middle, -, hmiddle⟩
  refine (hmiddle.addTokens_deeds stays target).then (hmiddle.addTokens_ensures stays target) rfl
    (by decide : Phase.guarding ≤ .copying) ?_
  intro guarded after hguarded
  have tokens : ∀ token ∈ target.tokens, token ∈ (middle.guarded target).tokens :=
    fun token mem => Holdings.mem_tokens_guarded.mpr (.inr mem)
  refine (hguarded.copyTo_deeds tokens).then
    (hguarded.copyTo_ensures target.namespaces) rfl (by decide : Phase.copying ≤ .settling) ?_
  rintro outcomes after ⟨-, hbrought⟩
  dsimp only
  rw [← apply_ite (· >>= _)]
  refine (hbrought.settle_deeds stays target).then (hbrought.settle_ensures stays target) rfl
    (by decide : Phase.settling ≤ .recording) ?_
  intro settled after hsettled
  rw [← map_eq_pure_bind]
  refine (Program.traces_map _ _).mpr ((Program.traces_map _ _).mpr ?_)
  unfold ClusterConfig.recordProcessed
  split
  · exact .nil
  · next hdiffers => exact fun _ _ _ => .singleton (.record (.inr rfl) hsettled.atHand hdiffers)

end Underway

end Cluster

/-! ## Sources on their way out -/

namespace Cluster.Departing

variable {may : Refusal → Prop} {base source : ClusterConfig} {origin cluster : Cluster}
  {target : TargetSet} {done : List Undoing}

theorem dropToken_deeds (h : Departing base origin done source cluster) (token : String) :
    (source.dropToken token).Always (faulty may) cluster
      (Deed (Refusal.Loses may) base target .retiring) :=
  Cluster.dropToken_deeds (.inl rfl) fun held => ⟨h.stored_of_holds held, h.alike⟩

/-- A round for a source on its way out takes away and drops. -/
theorem departs_deeds (hkeeps : ¬ Refusal.Loses may) (leaves : base.isDeleting = true)
    (first : ClusterConfig) (cleared : TargetSet) :
    (Cluster.deeds may base target .retiring).Departs first cleared
      (fun source cluster => ∃ done, Departing base origin done source cluster)
      fun _ source cluster => ∃ done, Departing base origin done source cluster := by
  have hwithdraw : ∀ {source : ClusterConfig} {cluster : Cluster} {ns : String},
      (∃ done, Departing base origin done source cluster) →
      (source.withdraw source.spec.kind ns).Passes (Cluster.deeds may base target .retiring) cluster
        fun _ after => ∃ done, Departing base origin done source after := by
    rintro source cluster ns ⟨done, h⟩
    rw [ClusterConfig.kind_of_alike h.alike]
    exact (Cluster.withdraw_deeds h.alike cluster ns).passes (h.withdraw_ensures hkeeps ns)
      fun _ _ hnext => ⟨_, hnext⟩
  refine ⟨fun h _ => hwithdraw h, ?_, ?_, fun h _ => hwithdraw h, fun h => h⟩
  · rintro source cluster token ⟨done, h⟩ -
    exact (h.dropToken_deeds token).passes (h.dropToken_ensures leaves token)
      fun _ _ hnext => ⟨_, hnext⟩
  · rintro source cluster ⟨done, h⟩ - -
    refine Program.Always.passes (Program.always_ask fun _ => .list)
      cluster.listNamespaces_ensures ?_
    rintro live after ⟨-, rfl⟩
    exact ⟨done, h⟩

theorem cleanup_deeds (keyed : cluster.WellKeyed)
    (stored : cluster.sources[base.metadata.key]? = some base)
    (hkeeps : ¬ Refusal.Loses may) (leaves : base.isDeleting = true) :
    base.cleanup.Always (faulty may) cluster
      (Deed (Refusal.Loses may) base target .retiring) := by
  refine ClusterConfig.passes_cleanup
    ((Cluster.resolve_deeds _).passes (cluster.resolve_ensures _) ?_)
  rintro resolved after ⟨-, rfl⟩
  exact ⟨_, _, departs_deeds hkeeps leaves base resolved, ⟨_, .start keyed stored⟩,
    fun _ _ _ => trivial⟩

end Cluster.Departing

/-! ## Whole rounds -/

/-- What is told of a source after a round with some result. -/
def ClusterConfig.news (source : ClusterConfig) : Except Error (Option Report) → List Event
  | .ok report => (report.filter (!·.isEmpty)).toList.map fun report =>
    ⟨source, .normal, "Synced", report.note⟩
  | .error error => [⟨source, .warning, "ReconcileFailed", error.message⟩]

namespace Cluster

variable {may : Refusal → Prop} {base source : ClusterConfig} {cluster : Cluster}
  {target : TargetSet}

/-- Once the source was looked up, the round goes on, and then its result is told. -/
theorem attend_does {σ : Type} {around : Surroundings σ} {state : σ}
    {holds : List (Act σ) → Except Error Action → σ → Prop}
    (h : source.round.Traces around state fun acts result after =>
      holds (acts ++ (source.news result).map .told) (result.map fun _ => .awaitChange)
        ((source.news result).foldl (fun state event => around.records event state) after)) :
    (attend (.ok source)).Traces around state holds := by
  unfold attend
  dsimp only
  refine (Program.traces_bind _ _).mpr ((Program.traces_attempt _).mpr (h.mono ?_))
  rintro acts (error | report) after hholds
  · exact hholds
  · dsimp only
    simp only [ClusterConfig.news] at hholds
    cases hfilter : report.filter (!·.isEmpty) with
    | none =>
      rw [hfilter] at hholds
      exact hholds
    | some written =>
      rw [hfilter] at hholds
      exact hholds

theorem attend_traces {holds : List (Act Cluster) → Except Error Action → Cluster → Prop}
    (h : source.round.Traces (faulty may) cluster fun acts result after =>
      holds (acts ++ (source.news result).map .told) (result.map fun _ => .awaitChange) after) :
    (attend (.ok source)).Traces (faulty may) cluster holds := by
  refine attend_does (h.mono fun acts result after hholds => ?_)
  have hsame : ∀ events : List Event,
      events.foldl (fun state event => (faulty may).records event state) after = after := by
    intro events
    induction events with
    | nil => rfl
    | cons _ _ ih => exact ih
  rwa [hsame]

/-- A round for a stored source looks it up and goes on, unless the look is refused. -/
theorem reconcile_traces {key : ObjectKey} (stored : cluster.sources[key]? = some source)
    {holds : List (Act Cluster) → Except Error Action → Cluster → Prop}
    (hattend : (attend (.ok source)).Traces (faulty may) cluster fun acts =>
      holds (.asked cluster (.getSource key) (.ok source) :: acts))
    (hlost : Refusal.Loses may → ∀ error,
      holds [.asked cluster (.getSource key) (.error error)] (.ok .awaitChange) cluster)
    (hrefused : Refusal.Possible may → ∀ error,
      holds [.asked cluster (.getSource key) (.error error)] (.error error) cluster) :
    (reconcile key).Traces (faulty may) cluster holds := by
  rw [reconcile_eq]
  refine (Program.traces_bind _ _).mpr ((Program.traces_attempt _).mpr
    ((Program.traces_ask _).mpr ?_))
  rintro answer after (ha | ⟨refusal, hmay, rfl, rfl⟩)
  · rw [answer_getSource stored] at ha
    cases ha
    exact hattend
  · unfold attend
    dsimp only
    split
    · next hmissing => exact hlost (StoreCall.loses_of_isNotFound hmay hmissing) _
    · exact hrefused ⟨refusal, hmay⟩ _

/-- The round for a stored source does what its part for the source does, between the look at the
source and the events. -/
theorem reconcile_inPhases (stored : cluster.sources[base.metadata.key]? = some base)
    (h : base.round.Traces (faulty may) cluster
      fun acts _ _ => InPhases (Deed (Refusal.Loses may) base target) .retiring acts) :
    (reconcile base.metadata.key).Traces (faulty may) cluster
      fun acts _ _ => InPhases (Deed (Refusal.Loses may) base target) .retiring acts := by
  refine reconcile_traces stored (attend_traces (h.mono fun acts result _ hacts => ?_))
    (fun _ _ => .singleton (.fetch stored)) fun _ _ => .singleton (.fetch stored)
  refine .cons (Phase.le_refl _) (.fetch stored) (hacts.tell fun act mem => ?_)
  obtain ⟨event, -, rfl⟩ := List.mem_map.mp mem
  exact .tell

theorem reconcile_deeds (keyed : cluster.WellKeyed)
    (stored : cluster.sources[base.metadata.key]? = some base) (stays : base.isDeleting = false)
    (htarget : NamespaceList.target base.spec.namespaceList cluster.namespaces = target) :
    (reconcile base.metadata.key).Traces (faulty may) cluster
      fun acts _ _ => InPhases (Deed (Refusal.Loses may) base target) .retiring acts := by
  refine reconcile_inPhases stored ?_
  unfold ClusterConfig.round
  rw [stays, if_neg Bool.false_ne_true, ← map_eq_pure_bind]
  exact (Program.traces_map _ _).mpr ((Underway.start keyed stored rfl).apply_deeds stays htarget)

/-- A round for a stored source on its way out stays in the first phase. -/
theorem teardown_deeds (keyed : cluster.WellKeyed)
    (stored : cluster.sources[base.metadata.key]? = some base)
    (hkeeps : ¬ Refusal.Loses may) (leaves : base.isDeleting = true) :
    (reconcile base.metadata.key).Traces (faulty may) cluster
      fun acts _ _ => InPhases (Deed (Refusal.Loses may) base target) .retiring acts := by
  refine reconcile_inPhases stored ?_
  have hround : base.round.Always (faulty may) cluster
      (Deed (Refusal.Loses may) base target .retiring) :=
    ClusterConfig.passes_round (fun stays => absurd (leaves.symm.trans stays) (by simp))
      fun _ => Departing.cleanup_deeds keyed stored hkeeps leaves
  refine hround.traces.mono fun acts _ _ hacts => ?_
  rw [← List.append_nil acts]
  exact .append hacts rfl .nil

end Cluster

end ConfigFanout
