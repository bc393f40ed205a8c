import ConfigFanout.Proofs.Failures
import ConfigFanout.Proofs.Writes

-- What a round reports. The report is put together from what the parts of the round return, and
-- yet it names the namespaces of the calls that have written artifacts, one for one and in order.
-- Whatever was left to another source, or was gone before it could be deleted, is not in it.
namespace ConfigFanout

/-! ## Reports on acts -/

namespace Act

variable {σ : Type}

/-- The namespace where an artifact was put up. -/
def created? : Act σ → Option String
  | .asked _ (.createArtifact _ artifact) (.ok _) => some artifact.metadata.key.ns
  | _ => none

/-- The namespace where an artifact was replaced. -/
def updated? : Act σ → Option String
  | .asked _ (.replaceArtifact _ artifact) (.ok _) => some artifact.metadata.key.ns
  | _ => none

/-- The namespace where an artifact was deleted. -/
def pruned? : Act σ → Option String
  | .asked _ (.deleteArtifact _ place) (.ok _) => some place.ns
  | _ => none

/-- Whether an artifact was written. -/
def Alters (act : Act σ) : Prop :=
  act.created?.isSome ∨ act.updated?.isSome ∨ act.pruned?.isSome

instance (act : Act σ) : Decidable act.Alters :=
  inferInstanceAs (Decidable (_ ∨ _ ∨ _))

end Act

namespace Report

variable {σ τ : Type}

/-- Where some acts have written artifacts. -/
def ofActs (acts : List (Act σ)) : Report where
  created := acts.filterMap Act.created?
  updated := acts.filterMap Act.updated?
  pruned := acts.filterMap Act.pruned?

/-- What one report says, and then what another one does. -/
instance : Append Report where
  append earlier later :=
    ⟨earlier.created ++ later.created, earlier.updated ++ later.updated,
      earlier.pruned ++ later.pruned⟩

theorem append_eq (earlier later : Report) : earlier ++ later =
    ⟨earlier.created ++ later.created, earlier.updated ++ later.updated,
      earlier.pruned ++ later.pruned⟩ := rfl

@[simp] theorem empty_append (report : Report) : ({} : Report) ++ report = report := rfl

@[simp] theorem append_empty (report : Report) : report ++ ({} : Report) = report := by
  simp [append_eq]

@[simp] theorem ofActs_append (acts later : List (Act σ)) :
    ofActs (acts ++ later) = ofActs acts ++ ofActs later := by
  simp [ofActs, append_eq]

@[simp] theorem ofActs_failed (state : σ) (request : StoreCall) (error : Error) :
    ofActs [.asked state request (.error error)] = {} := by
  cases request <;> rfl

theorem ofActs_told (events : List Event) :
    ofActs (events.map fun event => (.told event : Act σ)) = {} := by
  simp [ofActs, List.filterMap_map, Function.comp_def, Act.created?, Act.updated?, Act.pruned?]

/-- A report on acts is not empty if one of them has written something. -/
theorem isEmpty_ofActs (acts : List (Act σ)) :
    (ofActs acts).isEmpty = false ↔ ∃ act ∈ acts, act.Alters := by
  have hempty : ∀ f : Act σ → Option String,
      (acts.filterMap f).isEmpty = false ↔ ∃ act ∈ acts, (f act).isSome := by
    intro f
    rw [List.isEmpty_eq_false_iff, ne_eq, List.filterMap_eq_nil_iff]
    simp [Option.isSome_iff_ne_none]
  simp only [isEmpty, ofActs, Bool.and_eq_false_iff, hempty, Act.Alters]
  constructor
  · rintro ((⟨act, mem, h⟩ | ⟨act, mem, h⟩) | ⟨act, mem, h⟩)
    · exact ⟨act, mem, .inl h⟩
    · exact ⟨act, mem, .inr (.inl h)⟩
    · exact ⟨act, mem, .inr (.inr h)⟩
  · rintro ⟨act, mem, h | h | h⟩
    · exact .inl (.inl ⟨act, mem, h⟩)
    · exact .inl (.inr ⟨act, mem, h⟩)
    · exact .inr ⟨act, mem, h⟩

end Report

/-! ## Rounds that report -/

namespace Cluster

/-- Takes note of what is done where calls may be refused and nobody else writes. How a program
fails does not matter. -/
def noting (may : Refusal → Prop) : Judge (List (Act Cluster) × Cluster) :=
  (faulty may).noting.judge fun _ _ => True

/-- The acts so far have written artifacts as a report says. -/
structure Wrote (report : Report) (noted : List (Act Cluster) × Cluster) : Prop where
  keyed : noted.2.WellKeyed
  report : Report.ofActs noted.1 = report

namespace Wrote

variable {may : Refusal → Prop} {report : Report} {noted : List (Act Cluster) × Cluster}
  {request : StoreCall} {source : ClusterConfig}

theorem call {holds : Except Error request.Answer → List (Act Cluster) × Cluster → Prop}
    (h : Wrote report noted)
    (hok : ∀ {cluster : Cluster} {value after}, cluster.WellKeyed →
      cluster.Grants request value after.2 →
      Wrote (report ++ Report.ofActs [.asked cluster request (.ok value)]) after →
      holds (.ok value) after)
    (hfailed : ∀ error after, Wrote report after → holds (.error error) after) :
    (noting may).call request noted holds := by
  rintro answer after ⟨ha, hacts⟩
  rcases granted_or_left ha with ⟨value, rfl, grants⟩ | ⟨error, rfl, hsame⟩
  · refine hok h.keyed grants ⟨(grants.written h.keyed).keyed h.keyed, ?_⟩
    rw [hacts, Report.ofActs_append, h.report]
  · refine hfailed error after ⟨hsame ▸ h.keyed, ?_⟩
    rw [hacts, Report.ofActs_append, h.report, Report.ofActs_failed, Report.append_empty]

theorem writes {total : Report} (h : Wrote report noted)
    (hwrites : ∀ (cluster : Cluster) value,
      report ++ Report.ofActs [.asked cluster request (.ok value)] = total) :
    (noting may).call request noted ((noting may).returns fun _ => Wrote total) :=
  h.call (fun _ _ hafter => hwrites _ _ ▸ hafter) fun _ _ _ => trivial

theorem look {kind : ArtifactKind} {place : ObjectKey} {missing : _ → Prop}
    {holds : Artifact kind → List (Act Cluster) × Cluster → Prop} (h : Wrote report noted)
    (hmissing : ∀ after, Wrote report after → missing after)
    (hfound : ∀ existing after, existing.metadata.key = place → Wrote report after →
      holds existing after) :
    (noting may).call (.getArtifact kind place) noted ((noting may).finds missing holds) := by
  refine h.call (fun {cluster existing after} keyed grants hafter => ?_)
    fun error after hafter => Judge.finds_error (hmissing after hafter) trivial
  cases grants with
  | getArtifact found =>
    refine hfound existing after (keyed.artifacts _ _ _ found) ?_
    rwa [← Report.append_empty report]

theorem resolve_reports (h : Wrote report noted) (raw : String) :
    (resolve raw).Passes (noting may) noted fun _ => Wrote report :=
  passes_resolve (fun _ => h) fun _ => h.writes fun _ _ => report.append_empty

theorem withdraw_reports (h : Wrote report noted) (kind : ArtifactKind) (ns : String) :
    (source.withdraw kind ns).Passes (noting may) noted
      fun removal => Wrote (report.withRemoval ns removal) := by
  have hdeleted : report.withRemoval ns .deleted = report ++ { pruned := [ns] } := by
    simp [Report.append_eq, Report.withRemoval]
  refine ClusterConfig.passes_withdraw trivial fun _ => h.look (fun _ hafter => hafter)
    fun existing after _ hafter => ⟨fun _ => hafter, fun _ => ?_⟩
  rw [hdeleted]
  exact hafter.call (fun _ _ htaken => htaken)
    fun error final hfinal => Judge.finds_error hfinal trivial

theorem synchronize_reports (h : Wrote report noted) (kind : ArtifactKind) (ns : String) :
    (source.synchronize kind ns).Passes (noting may) noted
      fun outcome => Wrote (report.withOutcome ns outcome) := by
  have hcreated : report ++ { created := [ns] } = report.withOutcome ns .created := by
    simp [Report.append_eq, Report.withOutcome]
  have hupdated : report ++ { updated := [ns] } = report.withOutcome ns .updated := by
    simp [Report.append_eq, Report.withOutcome]
  refine ClusterConfig.passes_synchronize trivial fun _ => h.look
    (fun after hafter => hafter.writes fun _ _ => hcreated)
    fun existing after hplace hafter => ⟨fun _ _ => trivial, fun _ _ => hafter, ?_⟩
  intro revised _ hrevise
  have hkey := (existing.revise_eq_some hrevise).1.trans hplace
  have hreplaced : report ++ { updated := [revised.metadata.key.ns] } =
      report.withOutcome ns .updated := by
    rw [hkey, hupdated]
  exact hafter.writes fun _ _ => hreplaced

theorem applies_wrote (may : Refusal → Prop) (target : TargetSet) (processed : List String) :
    (noting may).Applies target processed fun report _ => Wrote report where
  withdraw h _ := h.withdraw_reports _ _
  drop h _ := ClusterConfig.passes_dropToken (fun _ => h) fun _ =>
    h.writes fun _ _ => Report.append_empty _
  record h := ClusterConfig.passes_recordProcessed (fun _ => h) fun _ =>
    h.writes fun _ _ => Report.append_empty _
  add h _ := ClusterConfig.passes_addToken (fun _ => h) fun _ =>
    h.writes fun _ _ => Report.append_empty _
  copy h _ := h.synchronize_reports _ _

end Wrote

end Cluster

/-- A round for a source that stays returns what it has written. -/
theorem ClusterConfig.apply_reports {may : Refusal → Prop} {cluster : Cluster}
    (keyed : cluster.WellKeyed) (source : ClusterConfig) :
    source.apply.Traces (Cluster.faulty may) cluster fun acts result _ =>
      ∀ report, result = .ok report → Report.ofActs acts = report := by
  have start : Cluster.Wrote {} ([], cluster) := ⟨keyed, rfl⟩
  have hpasses : source.apply.Passes (Cluster.noting may) ([], cluster) Cluster.Wrote :=
    passes_apply ((start.resolve_reports _).mono fun target _ h =>
      ⟨_, Cluster.Wrote.applies_wrote may target _, h, fun _ _ _ hdone => hdone⟩)
  refine (Program.ensures_noting.mp hpasses).mono ?_
  rintro acts _ after hwrote report rfl
  exact hwrote.report

/-! ## The one run that a store makes, taken apart -/

namespace Program

variable {σ α β : Type} {store : Store σ}

/-- In a store every run is the one that it makes. -/
theorem traces_surroundings (program : Program α) (state : σ) :
    program.Traces store.surroundings state fun acts result after =>
      acts = program.acts store state ∧ (result, after) = program.run store state := by
  induction program generalizing state with
  | done result => exact ⟨rfl, rfl⟩
  | call request next ih =>
    rintro answer after ha
    have hanswer : answer = (store.answer request state).1 := by rw [ha]
    have hafter : after = (store.answer request state).2 := by rw [ha]
    subst hanswer hafter
    refine (ih _ _).mono ?_
    rintro later result final ⟨rfl, hrun⟩
    exact ⟨rfl, hrun⟩
  | publish event next ih =>
    refine (ih (store.record event state)).mono ?_
    rintro later result final ⟨rfl, hrun⟩
    exact ⟨rfl, hrun⟩

theorem acts_map (store : Store σ) (f : α → β) (program : Program α) (state : σ) :
    (f <$> program).acts store state = program.acts store state ∧
      ((f <$> program).run store state).1 = (program.run store state).1.map f := by
  have htraces : (f <$> program).Traces store.surroundings state fun acts result _ =>
      acts = program.acts store state ∧ result = (program.run store state).1.map f := by
    refine (traces_map f program).mpr ((traces_surroundings program state).mono ?_)
    rintro acts result after ⟨rfl, hrun⟩
    rw [← hrun]
    exact ⟨rfl, rfl⟩
  exact htraces.store

end Program

namespace Simulation

variable {simulation : Simulation} {key : ObjectKey} {source : ClusterConfig}

/-- The simulation after a round has looked up its source. -/
def looked (simulation : Simulation) (key : ObjectKey) : Simulation :=
  (simulation.answer (.getSource key)).2

theorem Undisturbed.looked {may : Refusal → Prop} (h : simulation.Undisturbed may)
    (key : ObjectKey) :
    (simulation.looked key).Undisturbed may ∧
      (simulation.looked key).cluster = simulation.cluster := by
  refine ⟨h.answer _, ?_⟩
  have ha := h.answer_eq (.getSource key)
  have hsame : (simulation.cluster.answer (.getSource key)).2 = simulation.cluster := by
    cases hanswer : simulation.cluster.answer (.getSource key) with
    | mk answer after =>
      cases answer with
      | error error => exact Cluster.eq_of_answer_eq_error hanswer
      | ok value =>
        cases Cluster.grants_of_answer hanswer
        rfl
  split at ha
  · exact congrArg Prod.snd ha
  · exact (congrArg Prod.snd ha).trans hsame

/-- A round that has found its source works on it, and tells what came of that. -/
theorem reconcile_of_found (found : (simulation.answer (.getSource key)).1 = .ok source) :
    simulation.acts (ConfigFanout.reconcile key) =
        source.attended key simulation.cluster ((simulation.looked key).acts source.round)
          (source.round.run store (simulation.looked key)).1 ∧
      (simulation.reconcile key).1 =
        (source.round.run store (simulation.looked key)).1.map fun _ => .awaitChange := by
  have htraces : (ConfigFanout.reconcile key).Traces store.surroundings simulation
      fun acts result _ => acts = source.attended key simulation
          (source.round.acts store (simulation.looked key))
          (source.round.run store (simulation.looked key)).1 ∧
        result = (source.round.run store (simulation.looked key)).1.map
          fun _ => .awaitChange := by
    rw [Cluster.reconcile_eq]
    refine (Program.traces_bind _ _).mpr ((Program.traces_attempt _).mpr
      ((Program.traces_ask _).mpr fun answer after ha => ?_))
    have hanswer : answer = .ok source := by
      rw [← found]
      exact (congrArg Prod.fst ha).symm
    have hafter : after = simulation.looked key := (congrArg Prod.snd ha).symm
    subst hanswer hafter
    refine Cluster.attend_does ((Program.traces_surroundings _ _).mono ?_)
    rintro acts result final ⟨rfl, hrun⟩
    rw [← hrun]
    exact ⟨rfl, rfl⟩
  obtain ⟨hacts, hresult⟩ := htraces.store
  refine ⟨?_, hresult⟩
  rw [acts, hacts]
  simp [ClusterConfig.attended, acts, Act.view, Function.comp_def]

theorem reconcile_of_lost {error : Error}
    (lost : (simulation.answer (.getSource key)).1 = .error error) :
    simulation.acts (ConfigFanout.reconcile key) =
      [.asked simulation.cluster (.getSource key) (.error error)] := by
  have htraces : (ConfigFanout.reconcile key).Traces store.surroundings simulation
      fun acts _ _ => acts = [.asked simulation (.getSource key) (.error error)] := by
    rw [Cluster.reconcile_eq]
    refine (Program.traces_bind _ _).mpr ((Program.traces_attempt _).mpr
      ((Program.traces_ask _).mpr fun answer after ha => ?_))
    have hanswer : answer = .error error := by
      rw [← lost]
      exact (congrArg Prod.fst ha).symm
    subst hanswer
    unfold Cluster.attend
    dsimp only
    split <;> rfl
  rw [acts, htraces.store]
  rfl

theorem Undisturbed.stored_of_found {may : Refusal → Prop} (h : simulation.Undisturbed may)
    {stored : ClusterConfig} (hstored : simulation.cluster.sources[key]? = some stored)
    (found : (simulation.answer (.getSource key)).1 = .ok source) : source = stored := by
  have ha := h.answer_eq (.getSource key)
  rw [Cluster.answer_getSource hstored] at ha
  split at ha
  · have hrefused := found.symm.trans (Prod.ext_iff.mp ha).1
    cases hrefused
  · exact Except.ok.inj (found.symm.trans (Prod.ext_iff.mp ha).1)

end Simulation

/-! ## Whole rounds -/

/-- Around its calls a round writes nothing. -/
theorem Report.ofActs_attended {σ : Type} {source : ClusterConfig} {key : ObjectKey} {state : σ}
    {calls : List (Act σ)} {result : Except Error (Option Report)} :
    ofActs (source.attended key state calls result) = ofActs calls := by
  have hlook : ofActs [(.asked state (.getSource key) (.ok source) : Act σ)] = {} := rfl
  rw [ClusterConfig.attended, ← List.singleton_append, ofActs_append, ofActs_append, ofActs_told,
    hlook, empty_append, append_empty]

theorem ClusterConfig.news_of_report (source : ClusterConfig) (report : Report) :
    source.news (.ok (some report)) =
      if report.isEmpty then [] else [⟨source, .normal, "Synced", report.note⟩] := by
  rw [news, Option.filter_some]
  cases report.isEmpty <;> rfl

namespace Simulation.Undisturbed

variable {may : Refusal → Prop} {simulation : Simulation} {key : ObjectKey}
  {source : ClusterConfig} {action : Action}

theorem events_of_found (h : simulation.Undisturbed may)
    (found : (simulation.answer (.getSource key)).1 = .ok source) :
    (simulation.reconcile key).2.events =
      simulation.events ++
        source.news (source.round.run store (simulation.looked key)).1 := by
  obtain ⟨hacts, -⟩ := reconcile_of_found found
  have heeded : Heeded (fun _ => False) ((simulation.looked key).acts source.round)
      (source.round.run store (simulation.looked key)).1 :=
    Program.Traces.simulate (source.round_heeded _) (h.looked key).1
  rw [Simulation.reconcile, (notes_run _ _).2, hacts, heeded.events_attended]

/-- A round that has found its source, and succeeds, tells what came of its part for the source. -/
theorem exists_part_of_found {β : Type} {f : β → Option Report} {part : Program β}
    (h : simulation.Undisturbed may)
    (found : (simulation.answer (.getSource key)).1 = .ok source)
    (hround : source.round = f <$> part) (hok : (simulation.reconcile key).1 = .ok action) :
    ∃ value, (part.run store (simulation.looked key)).1 = .ok value ∧
      (simulation.reconcile key).2.events =
        simulation.events ++ source.news (.ok (f value)) := by
  obtain ⟨-, hresult⟩ := reconcile_of_found found
  have hevents := h.events_of_found found
  rw [hround, (Program.acts_map store f part (simulation.looked key)).2] at hresult hevents
  cases hvalue : (part.run store (simulation.looked key)).1 with
  | error error =>
    rw [hvalue, hok] at hresult
    cases hresult
  | ok value =>
    rw [hvalue] at hevents
    exact ⟨value, rfl, hevents⟩

/-- A round that has found a source which stays, and succeeds, returns what it has written, and
tells that. -/
theorem reports (h : simulation.Undisturbed may) (keyed : simulation.cluster.WellKeyed)
    (found : (simulation.answer (.getSource key)).1 = .ok source)
    (stays : source.isDeleting = false) (hok : (simulation.reconcile key).1 = .ok action) :
    (source.apply.run store (simulation.looked key)).1 =
        .ok (Report.ofActs (simulation.acts (ConfigFanout.reconcile key))) ∧
      (simulation.reconcile key).2.events = simulation.events ++
        source.news (.ok (some
          (Report.ofActs (simulation.acts (ConfigFanout.reconcile key))))) := by
  obtain ⟨hlooked, hsame⟩ := h.looked key
  have hround : source.round = some <$> source.apply := by
    rw [ClusterConfig.round, stays, if_neg Bool.false_ne_true, ← map_eq_pure_bind]
  obtain ⟨report, hvalue, hevents⟩ := h.exists_part_of_found found hround hok
  have hwritten := (source.apply_reports (hsame ▸ keyed)).simulate hlooked report hvalue
  have hreport : Report.ofActs (simulation.acts (ConfigFanout.reconcile key)) = report := by
    rw [(reconcile_of_found found).1, Report.ofActs_attended, acts, hround,
      (Program.acts_map store some source.apply _).1]
    exact hwritten
  rw [hreport]
  exact ⟨hvalue, hevents⟩

theorem quiet_of_leaves (h : simulation.Undisturbed may)
    (found : (simulation.answer (.getSource key)).1 = .ok source)
    (leaves : source.isDeleting = true) (hok : (simulation.reconcile key).1 = .ok action) :
    (simulation.reconcile key).2.events = simulation.events := by
  have hround : source.round = (fun _ => none) <$> source.cleanup := by
    rw [ClusterConfig.round, if_pos leaves, map_eq_pure_bind]
  obtain ⟨_, -, hevents⟩ := h.exists_part_of_found found hround hok
  exact hevents.trans (List.append_nil _)

theorem quiet_of_lost {error : Error}
    (lost : (simulation.answer (.getSource key)).1 = .error error) :
    (simulation.reconcile key).2.events = simulation.events := by
  rw [Simulation.reconcile, (notes_run _ _).2, reconcile_of_lost lost]
  exact List.append_nil _

end Simulation.Undisturbed

/-- Whichever calls fail, a round that succeeds reports the calls that have written artifacts: the
report names their namespaces, one for each call and in order, and one event with that report is
published if there was such a call. Nothing is published otherwise, or of a source on its way
out. -/
theorem a_round_reports_the_calls_that_wrote {may : Refusal → Prop} {simulation : Simulation}
    {key : ObjectKey} {source : ClusterConfig} {action : Action}
    (undisturbed : simulation.Undisturbed may) (keyed : simulation.cluster.WellKeyed)
    (stored : simulation.cluster.sources[key]? = some source)
    (ok : (simulation.reconcile key).1 = .ok action) :
    let acts := simulation.acts (reconcile key)
    let events := (simulation.reconcile key).2.events
    let written : Report := {
      created := acts.filterMap Act.created?
      updated := acts.filterMap Act.updated?
      pruned := acts.filterMap Act.pruned? }
    (source.isDeleting = false →
      ((simulation.answer (.getSource key)).1 = .ok source →
        (source.apply.run Simulation.store (simulation.looked key)).1 = .ok written) ∧
      ((∃ act ∈ acts, act.Alters) →
        events = simulation.events ++ [⟨source, .normal, "Synced", written.note⟩]) ∧
      ((∀ act ∈ acts, ¬ act.Alters) → events = simulation.events)) ∧
    (source.isDeleting = true → events = simulation.events) := by
  intro acts events written
  cases hlook : (simulation.answer (.getSource key)).1 with
  | error error =>
    have hquiet : events = simulation.events := Simulation.Undisturbed.quiet_of_lost hlook
    refine ⟨fun _ => ⟨nofun, fun hsome => ?_, fun _ => hquiet⟩, fun _ => hquiet⟩
    obtain ⟨act, mem, halters⟩ := hsome
    have hacts : acts = [.asked simulation.cluster (.getSource key) (.error error)] :=
      Simulation.reconcile_of_lost hlook
    rw [hacts, List.mem_singleton] at mem
    subst mem
    rcases halters with h | h | h <;> cases h
  | ok found =>
    obtain rfl := undisturbed.stored_of_found stored hlook
    refine ⟨fun stays => ?_, fun leaves => undisturbed.quiet_of_leaves hlook leaves ok⟩
    obtain ⟨hreport, hevents⟩ := undisturbed.reports keyed hlook stays ok
    refine ⟨fun _ => hreport, fun hsome => ?_, fun hnone => ?_⟩
    · have hwritten := (Report.isEmpty_ofActs acts).mpr hsome
      rw [ClusterConfig.news_of_report, hwritten] at hevents
      exact hevents
    · have hempty : (Report.ofActs acts).isEmpty = true := by
        rw [← Bool.not_eq_false, Report.isEmpty_ofActs]
        rintro ⟨act, mem, halters⟩
        exact hnone act mem halters
      rw [ClusterConfig.news_of_report, hempty] at hevents
      exact hevents.trans (List.append_nil _)

/-- A source that goes to one namespace, which its list names twice, and was in three others. -/
def ClusterConfig.reported : ClusterConfig :=
  { ClusterConfig.trial "a,a" with status := some ⟨["b", "c", "d"]⟩ }

/-- A simulation with it, its copies in two of these, and the copy of another source in the third
one. One of its own is said to be gone when it is to be deleted. -/
def Simulation.reported : Simulation where
  cluster := (((({ namespaces := ["a", "b", "c", "d"] } : Cluster).putSource
    ⟨"default", "app-config"⟩ .reported).putArtifact
      (ClusterConfig.reported.newCopy .configMap "app-config" "b")).putArtifact
      (({ ClusterConfig.reported with metadata := { name := some "other" } } :
        ClusterConfig).newCopy .configMap "app-config" "c")).putArtifact
      (ClusterConfig.reported.newCopy .configMap "app-config" "d")
  rules := [{ on := "delete ConfigMap d/*", refusal := some { code := 404 } }]

/-- The copy is put up once, and of the three others only one is reported. -/
theorem one_copy_was_put_up_and_one_taken_away :
    (Simulation.reported.reconcile ⟨"default", "app-config"⟩).2.events =
      [⟨.atVersion .reported 1, .normal, "Synced",
        "created in [\"a\"], updated in [], pruned from [\"b\"]"⟩] := by
  have keyed : Simulation.reported.cluster.WellKeyed :=
    ((((Cluster.keyed_empty _).putSource .reported).putArtifact _).putArtifact _).putArtifact _
  have hwritten : Report.ofActs
      (Simulation.reported.acts (reconcile ⟨"default", "app-config"⟩)) =
        { created := ["a"], pruned := ["b"] } := by decide +kernel
  obtain ⟨hstays, -⟩ := @a_round_reports_the_calls_that_wrote (fun _ => True) .reported
    ⟨"default", "app-config"⟩ (.atVersion .reported 1) .awaitChange
    ⟨by simp [Simulation.reported], by simp⟩ keyed (by decide +kernel) (by decide +kernel)
  have hsome := (Report.isEmpty_ofActs _).mp (hwritten ▸ rfl :
    (Report.ofActs (Simulation.reported.acts (reconcile ⟨"default", "app-config"⟩))).isEmpty =
      false)
  refine ((hstays (by decide)).2.1 hsome).trans ?_
  rw [← Report.ofActs, hwritten]
  decide +kernel

end ConfigFanout
