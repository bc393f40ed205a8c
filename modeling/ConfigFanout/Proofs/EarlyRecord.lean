import ConfigFanout.Proofs.Deeds

-- What the status says after a round that failed. A round for a source with a record of
-- namespaces puts its target there before it has brought a single copy up to date, so whatever
-- fails afterwards leaves a status that tells of copies which may not be there.
namespace ConfigFanout

namespace Act

/-- Whether a status was written. -/
def records {σ : Type} : Act σ → Bool
  | .asked _ (.updateStatus _) (.ok _) => true
  | _ => false

/-- The place of the artifact that a call is about. -/
def place? {σ : Type} : Act σ → Option ObjectKey
  | .asked _ (.getArtifact _ place) _ | .asked _ (.deleteArtifact _ place) _ => some place
  | .asked _ (.createArtifact _ artifact) _ | .asked _ (.replaceArtifact _ artifact) _ =>
    some artifact.metadata.key
  | _ => none

/-- Whether an act leaves the status and the artifacts in some namespaces alone. -/
structure Off {σ : Type} (namespaces : List String) (act : Act σ) : Prop where
  quiet : act.records = false
  elsewhere : ∀ place, act.place? = some place → place.ns ∉ namespaces

theorem none_records {σ : Type} {acts : List (Act σ)} (h : ∀ act ∈ acts, act.records = false) :
    ¬ ∃ act ∈ acts, act.records = true := by
  rintro ⟨act, mem, hrecords⟩
  rw [h act mem] at hrecords
  cases hrecords

theorem records_append {σ : Type} {acts later : List (Act σ)} :
    (∃ act ∈ acts ++ later, act.records = true) ↔
      (∃ act ∈ acts, act.records = true) ∨ ∃ act ∈ later, act.records = true := by
  simp only [List.mem_append, or_and_right, exists_or]

end Act

/-! ## The status of a failed round -/

/-- What a round for a source that stays leaves of the status when it fails. -/
structure StatusLeft (source : ClusterConfig) (target : TargetSet) (acts : List (Act Cluster))
    (status : Option ClusterConfigStatus) : Prop where
  /-- It is as it was, unless the source had a record of namespaces. -/
  either : status = source.status ∨ source.processed ≠ [] ∧ status = some ⟨target.namespaces⟩
  /-- It differs if and only if it was written. -/
  changed_iff : status ≠ source.status ↔ ∃ act ∈ acts, act.records = true
  /-- With a record it is the target before the first artifact in the target is looked at. -/
  early : source.processed ≠ [] → ∀ act ∈ acts, ∀ place, act.place? = some place →
    place.ns ∈ target.namespaces → status = some ⟨target.namespaces⟩

namespace StatusLeft

variable {source : ClusterConfig} {target : TargetSet} {acts around : List (Act Cluster)}
  {status : Option ClusterConfigStatus}

theorem of_off (h : ∀ act ∈ acts, act.Off target.namespaces) :
    StatusLeft source target acts source.status where
  either := .inl rfl
  changed_iff :=
    iff_of_false (not_not_intro rfl) (Act.none_records fun act mem => (h act mem).quiet)
  early _ act mem place hplace hns := absurd hns ((h act mem).elsewhere place hplace)

/-- Once the target is recorded, nothing else writes the status. -/
theorem append_quiet (h : StatusLeft source target acts status)
    (hlate : source.processed ≠ [] → status = some ⟨target.namespaces⟩) {later : List (Act Cluster)}
    (hlater : ∀ act ∈ later, act.records = false) :
    StatusLeft source target (acts ++ later) status where
  either := h.either
  changed_iff := by
    rw [h.changed_iff, Act.records_append]
    exact (or_iff_left (Act.none_records hlater)).symm
  early hrecord _ _ _ _ _ := hlate hrecord

/-- Acts that leave the status and the target alone may come before and after. -/
theorem extend (h : StatusLeft source target acts status) {before later : List (Act Cluster)}
    (hbefore : ∀ act ∈ before, act.Off target.namespaces)
    (hlater : ∀ act ∈ later, act.Off target.namespaces) :
    StatusLeft source target (before ++ (acts ++ later)) status where
  either := h.either
  changed_iff := by
    have hnone := Act.none_records fun act mem => (hbefore act mem).quiet
    have hnone' := Act.none_records fun act mem => (hlater act mem).quiet
    rw [Act.records_append, Act.records_append, or_iff_right hnone, or_iff_left hnone']
    exact h.changed_iff
  early hrecord act mem place hplace hns := by
    rcases List.mem_append.mp mem with mem | mem
    · exact absurd hns ((hbefore act mem).elsewhere place hplace)
    · rcases List.mem_append.mp mem with mem | mem
      · exact h.early hrecord act mem place hplace hns
      · exact absurd hns ((hlater act mem).elsewhere place hplace)

end StatusLeft

/-! ## Parts that do not write the status -/

namespace ClusterConfig

variable {σ : Type} {around : Surroundings σ} {state : σ} {source : ClusterConfig}
  {namespaces : List String}

theorem withdraw_off {kind : ArtifactKind} {ns : String} (hns : ns ∉ namespaces) :
    (source.withdraw kind ns).Always around state (Act.Off namespaces) := by
  have hplace : ∀ {act : Act σ}, act.records = false →
      act.place? = some ⟨ns, source.metadata.anyName⟩ → act.Off namespaces := by
    intro act quiet hact
    refine ⟨quiet, fun place hplace => ?_⟩
    obtain rfl := Option.some.inj (hact.symm.trans hplace)
    exact hns
  refine passes_withdraw trivial fun _ => Program.allowing_finds (fun _ => hplace rfl rfl)
    (fun _ => trivial) fun existing after => ⟨fun _ => trivial, fun _ => ?_⟩
  exact Program.allowing_finds (fun _ => hplace rfl rfl) (fun _ => trivial) fun _ _ => trivial

theorem synchronize_quiet (kind : ArtifactKind) (ns : String) :
    (source.synchronize kind ns).Always around state fun act => act.records = false := by
  refine passes_synchronize trivial fun _ => Program.allowing_finds (fun _ => rfl)
    (fun after => ?_)
    fun existing after => ⟨fun _ _ => trivial, fun _ _ => trivial, fun _ _ _ => ?_⟩
  · exact Program.allowing_returns (fun _ => rfl) fun _ _ => trivial
  · exact Program.allowing_returns (fun _ => rfl) fun _ _ => trivial

theorem resolve_off (raw : String) :
    (resolve raw).Always around state (Act.Off namespaces) :=
  passes_resolve (fun _ => trivial) fun _ =>
    Program.allowing_returns (fun _ => ⟨rfl, by simp [Act.place?]⟩) fun _ _ => trivial

end ClusterConfig

/-! ## The status on the way -/

namespace Cluster

variable {may : Refusal → Prop} {base source : ClusterConfig} {origin cluster : Cluster}
  {holdings : Holdings base.spec.kind} {target : TargetSet} {α : Type} {program : Program α}

/-- A round may lead to a cluster in which the source has some status. -/
def ReachesStatus (base : ClusterConfig) (origin : Cluster) (status : Option ClusterConfigStatus)
    (after : Cluster) : Prop :=
  ∃ holdings : Holdings base.spec.kind, holdings.status = status ∧
    origin.Reaches base holdings after

/-- Asks of a round that it leaves a status that fits what it has done, wherever it fails. -/
def leaving (may : Refusal → Prop) (base : ClusterConfig) (target : TargetSet) (origin : Cluster) :
    Judge (List (Act Cluster) × Cluster) :=
  (faulty may).noting.judge fun _ noted =>
    ∃ status, StatusLeft base target noted.1 status ∧ ReachesStatus base origin status noted.2

/-- A part that does not write the status fails with the one that there was. -/
theorem leaving_of_always {past : List (Act Cluster)} {allowed : Act Cluster → Prop}
    {status : Option ClusterConfigStatus} {onDone : α → Cluster → Prop}
    {onFail : Error → Cluster → Prop} {holds : α → List (Act Cluster) × Cluster → Prop}
    (hacts : program.Always (faulty may) cluster allowed)
    (hends : program.Ensures (faulty may) cluster onDone onFail)
    (hfail : ∀ error after, onFail error after → ReachesStatus base origin status after)
    (hleft : ∀ acts, (∀ act ∈ acts, allowed act) → StatusLeft base target (past ++ acts) status)
    (hdone : ∀ acts value after, (∀ act ∈ acts, allowed act) → onDone value after →
      holds value (past ++ acts, after)) :
    program.Passes (leaving may base target origin) (past, cluster) holds := by
  refine Program.ensures_noting.mpr ((hacts.traces.and hends.traces).mono ?_)
  rintro acts (error | value) after ⟨hallowed, hend⟩
  · exact ⟨status, hleft acts hallowed, hfail error after hend⟩
  · exact hdone acts value after hallowed hend

/-- A stretch of a round: what is known of what was done and of the status, and what may be done
next. -/
structure Stretch (base : ClusterConfig) (target : TargetSet) where
  fine : List (Act Cluster) → Option ClusterConfigStatus → Prop
  allowed : Act Cluster → Prop
  /-- Finalizers may be written. -/
  updates : ∀ {cluster updated answer}, allowed (.asked cluster (.updateSource updated) answer)
  left : ∀ {acts status}, fine acts status → StatusLeft base target acts status
  more : ∀ {acts later status}, fine acts status → (∀ act ∈ later, allowed act) →
    fine (acts ++ later) status

namespace Stretch

/-- The stretch of a source with a record, before the target is recorded. -/
def before (base : ClusterConfig) (target : TargetSet) : Stretch base target where
  fine acts status := base.processed ≠ [] ∧ status = base.status ∧
    ∀ act ∈ acts, act.Off target.namespaces
  allowed := Act.Off target.namespaces
  updates := ⟨rfl, by simp [Act.place?]⟩
  left := by
    rintro acts status ⟨-, rfl, hoff⟩
    exact .of_off hoff
  more hfine hlater :=
    ⟨hfine.1, hfine.2.1, List.forall_mem_append.mpr ⟨hfine.2.2, hlater⟩⟩

/-- The stretch after that, which is the first one of a source without a record. -/
def afterwards (base : ClusterConfig) (target : TargetSet) : Stretch base target where
  fine acts status := StatusLeft base target acts status ∧
    (base.processed ≠ [] → status = some ⟨target.namespaces⟩)
  allowed act := act.records = false
  updates := rfl
  left hfine := hfine.1
  more hfine hlater := ⟨hfine.1.append_quiet hfine.2 hlater, hfine.2⟩

variable (stretch : Stretch base target) {noted : List (Act Cluster) × Cluster}

/-- A round is on its way in the stretch. -/
def At (origin : Cluster) (source : ClusterConfig) (noted : List (Act Cluster) × Cluster) : Prop :=
  ∃ holdings : Holdings base.spec.kind, Underway base origin holdings source noted.2 ∧
    stretch.fine noted.1 holdings.status

variable {stretch}

/-- A part that does what may be done leaves the round in the stretch. `hand` is the source that
it goes on with. -/
theorem part (hand : α → ClusterConfig) {onDone : α → Cluster → Prop}
    {onFail : Error → Cluster → Prop} (fine : stretch.fine noted.1 holdings.status)
    (hacts : program.Always (faulty may) noted.2 stretch.allowed)
    (hends : program.Ensures (faulty may) noted.2 onDone onFail)
    (hfail : ∀ error after, onFail error after → origin.Reaches base holdings after)
    (hdone : ∀ value after, onDone value after → ∃ next : Holdings base.spec.kind,
      Underway base origin next (hand value) after ∧ next.status = holdings.status) :
    program.Passes (leaving may base target origin) noted
      fun value => stretch.At origin (hand value) := by
  refine leaving_of_always hacts hends (fun error after h => ⟨holdings, rfl, hfail error after h⟩)
    (fun acts hallowed => stretch.left (stretch.more fine hallowed)) ?_
  intro acts value after hallowed hvalue
  obtain ⟨next, hnext, hstatus⟩ := hdone value after hvalue
  exact ⟨next, hnext, hstatus ▸ stretch.more fine hallowed⟩

theorem dropToken_leaves (stays : base.isDeleting = false) (h : stretch.At origin source noted)
    (token : String) :
    (source.dropToken token).Passes (leaving may base target origin) noted
      (stretch.At origin) := by
  obtain ⟨holdings, h, fine⟩ := h
  have hacts : (source.dropToken token).Always (faulty may) noted.2 stretch.allowed :=
    ClusterConfig.passes_dropToken (fun _ => trivial) fun _ =>
      Program.allowing_returns (fun _ => stretch.updates) fun _ _ => trivial
  exact part id fine hacts (h.dropToken_ensures stays token) (fun _ _ => And.left)
    fun _ _ hnext => ⟨_, hnext, rfl⟩

theorem addToken_leaves (stays : base.isDeleting = false) (h : stretch.At origin source noted)
    (token : String) :
    (source.addToken token).Passes (leaving may base target origin) noted
      (stretch.At origin) := by
  obtain ⟨holdings, h, fine⟩ := h
  have hacts : (source.addToken token).Always (faulty may) noted.2 stretch.allowed :=
    ClusterConfig.passes_addToken (fun _ => trivial) fun _ =>
      Program.allowing_returns (fun _ => stretch.updates) fun _ _ => trivial
  exact part id fine hacts (h.addToken_ensures stays token) (fun _ _ => And.left)
    fun _ _ hnext => ⟨_, hnext, rfl⟩

theorem withdraw_leaves (h : (before base target).At origin source noted) {ns : String}
    (hns : ns ∉ target.namespaces) :
    (source.withdraw source.spec.kind ns).Passes (leaving may base target origin) noted
      fun _ => (before base target).At origin source := by
  obtain ⟨holdings, h, fine⟩ := h
  rw [ClusterConfig.kind_of_alike h.alike]
  refine part (fun _ => source) fine (ClusterConfig.withdraw_off hns) (h.withdraw_ensures ns)
    (fun _ _ => And.left) ?_
  rintro removal after ⟨-, next, hwithdrawn, hnext⟩
  exact ⟨next, hnext, by cases hwithdrawn <;> rfl⟩

theorem synchronize_leaves (h : (afterwards base target).At origin source noted) (ns : String) :
    (source.synchronize source.spec.kind ns).Passes (leaving may base target origin) noted
      fun _ => (afterwards base target).At origin source := by
  obtain ⟨holdings, h, fine⟩ := h
  rw [ClusterConfig.kind_of_alike h.alike]
  exact part (fun _ => source) fine (ClusterConfig.synchronize_quiet _ ns)
    (h.synchronize_ensures ns) (fun _ _ => And.left) fun _ _ ⟨_, hnext⟩ => ⟨_, hnext, rfl⟩

end Stretch

/-- The status is written unless it says the same already. -/
theorem Underway.recordProcessed_traces (h : Underway base origin holdings source cluster)
    (namespaces : List String) :
    (source.recordProcessed namespaces).Traces (faulty may) cluster fun acts result after =>
      (∀ act ∈ acts, act.place? = none) ∧
      match result with
      | .ok stored => Underway base origin (holdings.record namespaces) stored after ∧
        ((∃ act ∈ acts, act.records = true) ↔ some ⟨namespaces⟩ ≠ holdings.status)
      | .error _ => (∀ act ∈ acts, act.records = false) ∧ origin.Reaches base holdings after := by
  have hacts : (source.recordProcessed namespaces).Traces (faulty may) cluster
      fun acts result _ => (∀ act ∈ acts, act.place? = none) ∧
        match result with
        | .ok _ => ((∃ act ∈ acts, act.records = true) ↔ some ⟨namespaces⟩ ≠ holdings.status)
        | .error _ => ∀ act ∈ acts, act.records = false := by
    unfold ClusterConfig.recordProcessed
    rw [h.status_eq]
    split
    · next hsame => exact ⟨by simp, by simp [hsame]⟩
    · next hdiffers =>
      rintro (error | stored) after -
      · exact ⟨by simp [Act.place?], by simp [Act.records]⟩
      · exact ⟨by simp [Act.place?], by simpa [Act.records] using Ne.symm hdiffers⟩
  refine (hacts.and (h.recordProcessed_ensures namespaces).traces).mono ?_
  rintro acts (error | stored) after ⟨⟨hplaces, hrecords⟩, hends⟩
  · exact ⟨hplaces, hrecords, hends.1⟩
  · exact ⟨hplaces, hends, hrecords⟩

namespace Stretch

variable {noted : List (Act Cluster) × Cluster}

/-- With the record of the target the first stretch is over. -/
theorem record_leaves (h : (before base target).At origin source noted) :
    (source.recordProcessed target.namespaces).Passes (leaving may base target origin) noted
      ((afterwards base target).At origin) := by
  obtain ⟨holdings, h, hrecord, hstatus, hoff⟩ := h
  refine Program.ensures_noting.mpr ((h.recordProcessed_traces target.namespaces).mono ?_)
  rintro acts (error | stored) after ⟨hplaces, hresult⟩
  · have hacts : ∀ act ∈ acts, act.Off target.namespaces :=
      fun act mem => ⟨hresult.1 act mem, by simp [hplaces act mem]⟩
    refine ⟨base.status, .of_off (List.forall_mem_append.mpr ⟨hoff, hacts⟩), ?_⟩
    exact ⟨holdings, hstatus, hresult.2⟩
  · obtain ⟨hnext, hrecords⟩ := hresult
    refine ⟨_, hnext, ⟨.inr ⟨hrecord, rfl⟩, ?_, fun _ _ _ _ _ _ => rfl⟩, fun _ => rfl⟩
    rw [hstatus] at hrecords
    have hquiet := Act.none_records fun act mem => (hoff act mem).quiet
    exact hrecords.symm.trans (Act.records_append.trans (or_iff_right hquiet)).symm

/-- A record that fails at the end of a round leaves the status as it was. -/
theorem finish_leaves (h : (afterwards base target).At origin source noted) :
    (source.recordProcessed target.namespaces).Passes (leaving may base target origin) noted
      fun _ _ => True := by
  obtain ⟨holdings, h, fine⟩ := h
  refine Program.ensures_noting.mpr ((h.recordProcessed_traces target.namespaces).mono ?_)
  rintro acts (error | stored) after ⟨-, hresult⟩
  · exact ⟨_, fine.1.append_quiet fine.2 hresult.1, holdings, rfl, hresult.2⟩
  · trivial

theorem retires_leaving (stays : base.isDeleting = false) (processed : List String) :
    (leaving may base target origin).Retires target processed
      (fun _ => (before base target).At origin) fun _ => (afterwards base target).At origin where
  withdraw h mem := withdraw_leaves h (NamespaceList.mem_stale.mp mem).2
  drop h _ := dropToken_leaves stays h _
  record := record_leaves

theorem catchesUp_leaving (stays : base.isDeleting = false) :
    (leaving may base target origin).CatchesUp target
      (fun _ => (afterwards base target).At origin) fun _ _ => True where
  add h _ := addToken_leaves stays h _
  copy h _ := synchronize_leaves h _
  settle h _ := dropToken_leaves stays h _
  finish := finish_leaves

end Stretch

end Cluster

/-! ## Rounds that fail -/

namespace Cluster

variable {may : Refusal → Prop} {base : ClusterConfig} {cluster : Cluster} {target : TargetSet}

/-- A round that fails leads to a cluster with some such status. -/
def LeavesStatus (base : ClusterConfig) (target : TargetSet) (origin : Cluster) {α : Type}
    (acts : List (Act Cluster)) (result : Except Error α) (after : Cluster) : Prop :=
  ∀ error, result = .error error → ∃ status, StatusLeft base target acts status ∧
    ReachesStatus base origin status after

theorem apply_leavesStatus (keyed : cluster.WellKeyed)
    (stored : cluster.sources[base.metadata.key]? = some base) (stays : base.isDeleting = false)
    (htarget : NamespaceList.target base.spec.namespaceList cluster.namespaces = target) :
    base.apply.Traces (faulty may) cluster (LeavesStatus base target cluster) := by
  have h := Underway.start keyed stored rfl
  have hstatus := status_holdings stored
  have hpasses : base.apply.Passes (leaving may base target cluster) ([], cluster)
      fun _ _ => True := by
    refine ClusterConfig.passes_stretches (leaving_of_always (ClusterConfig.resolve_off _)
      (cluster.resolve_ensures _) ?_ (fun acts hoff => .of_off hoff) ?_)
    · rintro error after ⟨rfl, -⟩
      exact ⟨_, hstatus, h.reaches⟩
    · rintro acts resolved after hoff ⟨rfl, rfl⟩
      rw [htarget]
      refine ⟨_, _, Stretch.retires_leaving stays _, Stretch.catchesUp_leaving stays, ?_, ?_⟩
      · intro hfirst
        refine ⟨_, h, ?_, fun hlater => absurd hfirst hlater⟩
        rw [hstatus]
        exact .of_off hoff
      · exact fun hlater => ⟨_, h, hlater, hstatus, hoff⟩
  refine (Program.ensures_noting.mp hpasses).mono ?_
  rintro acts _ after hleft error rfl
  exact hleft

/-- A round for a source that stays leaves such a status when it fails. -/
theorem reconcile_leavesStatus (keyed : cluster.WellKeyed)
    (stored : cluster.sources[base.metadata.key]? = some base) (stays : base.isDeleting = false)
    (htarget : NamespaceList.target base.spec.namespaceList cluster.namespaces = target) :
    (reconcile base.metadata.key).Traces (faulty may) cluster
      (LeavesStatus base target cluster) := by
  have hlook : ∀ answer, ∀ act ∈ [Act.asked cluster (.getSource base.metadata.key) answer],
      act.Off target.namespaces := by
    intro answer act mem
    cases List.mem_singleton.mp mem
    exact ⟨rfl, by simp [Act.place?]⟩
  refine reconcile_traces stored (attend_traces ?_) (fun _ _ _ herror => nomatch herror) ?_
  · unfold ClusterConfig.round
    rw [stays, if_neg Bool.false_ne_true, ← map_eq_pure_bind]
    refine (Program.traces_map _ _).mpr
      ((apply_leavesStatus keyed stored stays htarget).mono ?_)
    rintro acts (error | report) after hholds
    · intro _ _
      obtain ⟨status, hleft, hreaches⟩ := hholds error rfl
      refine ⟨status, hleft.extend (hlook _) fun act mem => ?_, hreaches⟩
      obtain ⟨event, -, rfl⟩ := List.mem_map.mp mem
      exact ⟨rfl, by simp [Act.place?]⟩
    · exact fun _ herror => nomatch herror
  · intro _ error _ _
    exact ⟨_, .of_off (hlook _), _, status_holdings stored,
      (Underway.start keyed stored rfl).reaches⟩

end Cluster

/-- A round for a source that stays, whatever makes it fail, leaves the status as it was, unless
the source had a record of namespaces. Then the status is the target of the failed round before
that round looks at the first artifact in the target. -/
theorem a_failed_round_may_have_recorded_its_target {may : Refusal → Prop}
    {simulation : Simulation} {source : ClusterConfig} {target : TargetSet} {error : Error}
    (undisturbed : simulation.Undisturbed may) (keyed : simulation.cluster.WellKeyed)
    (stored : simulation.cluster.sources[source.metadata.key]? = some source)
    (stays : source.isDeleting = false)
    (htarget : NamespaceList.target source.spec.namespaceList simulation.cluster.namespaces =
      target)
    (fails : (simulation.reconcile source.metadata.key).1 = .error error) :
    ∃ left,
      (simulation.reconcile source.metadata.key).2.cluster.sources[source.metadata.key]? =
        some left ∧
      StatusLeft source target (simulation.acts (reconcile source.metadata.key)) left.status := by
  have hleaves := (Cluster.reconcile_leavesStatus keyed stored stays htarget).simulate undisturbed
  obtain ⟨status, hstatus, holdings, rfl, hreaches⟩ := hleaves error fails
  obtain ⟨left, hleft, -⟩ := hreaches.stays
  refine ⟨left, hleft, ?_⟩
  rw [← Cluster.status_holdings hleft, hreaches.holds]
  exact hstatus

/-- A source whose copy is in the only namespace, and which is to go to another one. -/
def Simulation.stranded : Simulation where
  cluster := (Cluster.trial ["a"] "a").afterTurns ⟨"default", "app-config"⟩
    [.round [], .edit "b" {("k", "v")}]

/-- The round fails because the other namespace is not there, and the status names it. -/
theorem a_status_names_a_namespace_that_is_not_there :
    ∃ source left, Simulation.stranded.cluster.sources[
          (⟨"default", "app-config"⟩ : ObjectKey)]? = some source ∧
      source.status = some ⟨["a"]⟩ ∧
      (Simulation.stranded.reconcile ⟨"default", "app-config"⟩).1 =
        .error (.notFound .namespace ⟨"", "b"⟩) ∧
      (Simulation.stranded.reconcile ⟨"default", "app-config"⟩).2.cluster.sources[
          (⟨"default", "app-config"⟩ : ObjectKey)]? = some left ∧
      left.status = some ⟨["b"]⟩ := by
  have hfair : ∀ turn ∈ [Turn.round [], .edit "b" {("k", "v")}], turn.Fair := by simp
  have keyed : Simulation.stranded.cluster.WellKeyed :=
    (Cluster.orderly_afterTurns ((Cluster.fresh_trial ["a"] "a").orderly rfl) hfair).keyed
  obtain ⟨source, stored, hsource⟩ := (Option.any_eq_true _ _).mp
    (show (Simulation.stranded.cluster.sources[(⟨"default", "app-config"⟩ : ObjectKey)]?).any
      (fun source => source.status = some ⟨["a"]⟩ ∧ source.isDeleting = false ∧
        source.spec.namespaceList = "b") = true by decide +kernel)
  obtain ⟨hstatus, stays, hlist⟩ := of_decide_eq_true hsource
  have hkey : (⟨"default", "app-config"⟩ : ObjectKey) = source.metadata.key :=
    (keyed.sources _ _ stored).symm
  have herror : (Simulation.stranded.reconcile ⟨"default", "app-config"⟩).1 =
    .error (.notFound .namespace ⟨"", "b"⟩) := by decide +kernel
  have htarget : NamespaceList.target source.spec.namespaceList
      Simulation.stranded.cluster.namespaces = ⟨["b"], false⟩ := by
    rw [hlist]
    decide +kernel
  obtain ⟨left, hleft, status⟩ := @a_failed_round_may_have_recorded_its_target (fun _ => False)
    .stranded source ⟨["b"], false⟩ _ ⟨by simp [Simulation.stranded], by simp [Simulation.stranded]⟩
    keyed (hkey ▸ stored) stays htarget (hkey ▸ herror)
  rw [← hkey] at hleft status
  obtain ⟨act, mem, hplace⟩ := List.mem_filterMap.mp
    (show ⟨"b", "app-config"⟩ ∈ (Simulation.stranded.acts
      (reconcile ⟨"default", "app-config"⟩)).filterMap Act.place? by decide +kernel)
  have hrecord : source.processed ≠ [] := by simp [ClusterConfig.processed, hstatus]
  exact ⟨source, left, stored, hstatus, herror, hleft,
    status.early hrecord act mem _ hplace (by decide)⟩

end ConfigFanout
