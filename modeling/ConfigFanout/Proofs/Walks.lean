import ConfigFanout.Proofs.Holdings
import ConfigFanout.Proofs.Judges

-- The walk through a round, whoever judges it. Each part of a round passes if its calls do; what
-- the parts keep, of the source at hand and of the state, is kept by the loops over them and by
-- the whole. Whatever is shown of every round is shown by looking at its parts only.
namespace ConfigFanout

open Program

variable {κ : Type} {judge : Judge κ} {state : κ}

/-- What a list stands for is looked up only if it stands for all namespaces. -/
theorem passes_resolve {raw : String} {holds : TargetSet → κ → Prop}
    (explicit : NamespaceList.isEvery (NamespaceList.parse raw) = false →
      holds { namespaces := NamespaceList.parse raw, all := false } state)
    (every : NamespaceList.isEvery (NamespaceList.parse raw) = true →
      judge.call .listNamespaces state
        (judge.returns fun live => holds { namespaces := sortTexts live, all := true })) :
    (resolve raw).Passes judge state holds := by
  unfold resolve
  dsimp only
  split
  · next hevery => exact (passes_bind _ _).mpr (every hevery)
  · next hevery => exact explicit (by simpa using hevery)

namespace ClusterConfig

variable {source : ClusterConfig} {kind : ArtifactKind} {ns token : String}

/-! ## The parts of a round -/

theorem passes_addToken {holds : ClusterConfig → κ → Prop}
    (held : source.holds token = true → holds source state)
    (add : source.holds token = false →
      judge.call (.updateSource (source.withFinalizers (source.metadata.held ++ [token]))) state
        (judge.returns holds)) :
    (source.addToken token).Passes judge state holds := by
  unfold addToken
  split
  · next hheld => exact held hheld
  · next hheld => exact add (by simpa using hheld)

theorem passes_dropToken {holds : ClusterConfig → κ → Prop}
    (unheld : source.holds token = false → holds source state)
    (drop : source.holds token = true →
      judge.call (.updateSource (source.withFinalizers
        (source.metadata.held.filter (· ≠ token)))) state (judge.returns holds)) :
    (source.dropToken token).Passes judge state holds := by
  unfold dropToken
  split
  · next hheld => exact drop hheld
  · next hheld => exact unheld (by simpa using hheld)

theorem passes_recordProcessed {namespaces : List String} {holds : ClusterConfig → κ → Prop}
    (same : source.status = some ⟨namespaces⟩ → holds source state)
    (record : source.status ≠ some ⟨namespaces⟩ →
      judge.call (.updateStatus { source with status := some ⟨namespaces⟩ }) state
        (judge.returns holds)) :
    (source.recordProcessed namespaces).Passes judge state holds := by
  unfold recordProcessed
  split
  · next hsame => exact same hsame
  · next hdiffers => exact record hdiffers

/-- A source without a name is all that fails before the first call. -/
theorem passes_requireName {holds : String → κ → Prop}
    (unnamed : judge.fail (.missingMetadata "name") state)
    (named : source.Named → holds source.metadata.anyName state) :
    (ofExcept source.requireName).Passes judge state holds := by
  cases hname : source.requireName with
  | ok name =>
    obtain rfl := anyName_of_requireName hname
    exact named ⟨_, hname⟩
  | error error =>
    unfold requireName at hname
    split at hname
    · cases hname
    · cases hname
      exact unnamed

/-- Taking a copy away is a look, and a deletion of what is found if it belongs to no other
source. -/
theorem passes_withdraw {holds : Removal → κ → Prop}
    (unnamed : judge.fail (.missingMetadata "name") state)
    (look : source.Named → judge.call (.getArtifact kind ⟨ns, source.metadata.anyName⟩) state
      (judge.finds (holds .alreadyAbsent) fun existing after =>
        ((existing.otherOwner? source).isSome → holds .notOwned after) ∧
        (existing.otherOwner? source = none →
          judge.call (.deleteArtifact kind ⟨ns, source.metadata.anyName⟩) after
            (judge.finds (holds .alreadyAbsent) fun _ => holds .deleted)))) :
    (source.withdraw kind ns).Passes judge state holds := by
  have hfailed : ∀ {error : Error} {after : κ},
      (if error.isNotFound then holds .alreadyAbsent after else judge.fail error after) →
      (if error.isNotFound then return .alreadyAbsent else Program.fail error :
        Program Removal).Passes judge after holds := by
    intro error after hholds
    split at hholds
    · next hmissing =>
      rw [if_pos hmissing]
      exact hholds
    · next hfound =>
      rw [if_neg hfound]
      exact hholds
  unfold withdraw
  refine (passes_bind _ _).mpr (passes_requireName unnamed fun named => ?_)
  refine (passes_bind _ _).mpr (passes_try.mpr (judge.call_mono (look named) ?_))
  rintro (error | existing) after hfinds
  · exact hfailed hfinds
  · obtain ⟨hforeign, hown⟩ := hfinds
    dsimp only
    split
    · next hother => exact hforeign hother
    · next hother =>
      refine (passes_bind _ _).mpr
        (passes_try.mpr (judge.call_mono (hown (by simpa using hother)) ?_))
      rintro (error | _) final hfinds
      · exact hfailed hfinds
      · exact hfinds

/-- Bringing a copy up to date is a look, and a write unless it is up to date. -/
theorem passes_synchronize {holds : Synced → κ → Prop}
    (unnamed : judge.fail (.missingMetadata "name") state)
    (look : source.Named → judge.call (.getArtifact kind ⟨ns, source.metadata.anyName⟩) state
      (judge.finds
        (fun after => judge.call (.createArtifact kind
            (source.newCopy kind source.metadata.anyName ns)) after
          (judge.returns fun _ => holds .created))
        fun existing after =>
          (∀ owner, existing.otherOwner? source = some owner →
            judge.fail (.foreign kind.resource ⟨ns, source.metadata.anyName⟩ owner.path) after) ∧
          (existing.otherOwner? source = none → source.revise existing = none →
            holds .unchanged after) ∧
          ∀ revised, existing.otherOwner? source = none → source.revise existing = some revised →
            judge.call (.replaceArtifact kind revised) after
              (judge.returns fun _ => holds .updated))) :
    (source.synchronize kind ns).Passes judge state holds := by
  have hwrite : ∀ {request : StoreCall} {after : κ} (outcome : Synced),
      judge.call request after (judge.returns fun _ => holds outcome) →
      (do discard (ask request); return outcome : Program Synced).Passes judge after holds :=
    fun outcome hcall => (Passes.discard (passes_ask.mpr hcall)).bind fun _ _ hholds => hholds
  unfold synchronize
  refine (passes_bind _ _).mpr (passes_requireName unnamed fun named => ?_)
  refine (passes_bind _ _).mpr (passes_try.mpr (judge.call_mono (look named) ?_))
  rintro (error | existing) after hfinds
  · rw [Judge.finds] at hfinds
    dsimp only
    split at hfinds
    · next hmissing =>
      rw [if_pos hmissing]
      exact hwrite .created hfinds
    · next hfound =>
      rw [if_neg hfound]
      exact hfinds
  · obtain ⟨hforeign, hsame, hrevised⟩ := hfinds
    dsimp only
    cases hother : existing.otherOwner? source with
    | some owner => exact hforeign owner hother
    | none =>
      dsimp only
      cases hrevise : source.revise existing with
      | none => exact hsame hother hrevise
      | some revised => exact hwrite .updated (hrevised revised hother hrevise)

end ClusterConfig

/-! ## Sources that stay -/

namespace Report

/-- With what came of taking a copy away. -/
def withRemoval (report : Report) (ns : String) (removal : Removal) : Report :=
  { report with pruned := if removal = .deleted then report.pruned ++ [ns] else report.pruned }

/-- With what came of bringing a copy up to date. -/
def withOutcome (report : Report) (ns : String) : Synced → Report
  | .created => { report with created := report.created ++ [ns] }
  | .updated => { report with updated := report.updated ++ [ns] }
  | .unchanged => report

/-- The report of a round that brought copies up to date and took copies away. -/
def ofOutcomes (outcomes : List (String × Synced)) (pruned : List String) : Report where
  created := (outcomes.filter (·.2 = .created)).map (·.1)
  updated := (outcomes.filter (·.2 = .updated)).map (·.1)
  pruned := pruned

theorem ofOutcomes_concat (outcomes : List (String × Synced)) (pruned : List String) (ns : String)
    (outcome : Synced) : ofOutcomes (outcomes ++ [(ns, outcome)]) pruned =
      (ofOutcomes outcomes pruned).withOutcome ns outcome := by
  cases outcome <;> simp [ofOutcomes, withOutcome]

end Report

namespace Judge

/-- What is kept, by the report so far, while the copies of a source are taken away where it no
longer goes, and then what is kept once that is recorded. -/
structure Retires (judge : Judge κ) (target : TargetSet) (processed : List String)
    (keeps recorded : Report → ClusterConfig → κ → Prop) : Prop where
  withdraw : ∀ {report source state ns}, keeps report source state →
    ns ∈ NamespaceList.stale target.namespaces processed →
    (source.withdraw source.spec.kind ns).Passes judge state fun removal =>
      keeps (report.withRemoval ns removal) source
  drop : ∀ {report source state token}, keeps report source state →
    (isForeignFinalizer token = true → token ∈ NamespaceList.stale target.namespaces processed) →
    (source.dropToken token).Passes judge state (keeps report)
  record : ∀ {report source state}, keeps report source state →
    (source.recordProcessed target.namespaces).Passes judge state (recorded report)

/-- What is kept while a source gets what its target asks for, and what holds in the end. -/
structure CatchesUp (judge : Judge κ) (target : TargetSet)
    (keeps : Report → ClusterConfig → κ → Prop) (done : Report → κ → Prop) : Prop where
  add : ∀ {report source state token}, keeps report source state → token ∈ target.tokens →
    (source.addToken token).Passes judge state (keeps report)
  copy : ∀ {report source state ns}, keeps report source state → ns ∈ target.namespaces →
    (source.synchronize source.spec.kind ns).Passes judge state fun outcome =>
      keeps (report.withOutcome ns outcome) source
  settle : ∀ {report source state token}, keeps report source state →
    ¬ isForeignFinalizer token = true →
    (source.dropToken token).Passes judge state (keeps report)
  finish : ∀ {report source state}, keeps report source state →
    (source.recordProcessed target.namespaces).Passes judge state fun _ => done report

/-- What is kept all through a round for a source that stays. -/
structure Applies (judge : Judge κ) (target : TargetSet) (processed : List String)
    (keeps : Report → ClusterConfig → κ → Prop) : Prop
    extends Retires judge target processed keeps keeps where
  add : ∀ {report source state token}, keeps report source state → token ∈ target.tokens →
    (source.addToken token).Passes judge state (keeps report)
  copy : ∀ {report source state ns}, keeps report source state → ns ∈ target.namespaces →
    (source.synchronize source.spec.kind ns).Passes judge state fun outcome =>
      keeps (report.withOutcome ns outcome) source

end Judge

theorem everyToken_not_foreign : ¬ isForeignFinalizer everyToken = true := by decide

theorem ClusterConfig.not_foreign_of_mem {source : ClusterConfig} {token : String}
    (mem : token ∈ source.namespaceTokens) : ¬ isForeignFinalizer token = true := by
  simp only [namespaceTokens, List.mem_filter, Bool.and_eq_true, Bool.not_eq_true'] at mem
  simp [mem.2.2]

namespace ClusterConfig

variable {source : ClusterConfig} {target : TargetSet} {processed : List String}
  {keeps recorded : Report → ClusterConfig → κ → Prop} {done : Report → κ → Prop}
  {report : Report}

/-- Copies are taken away one after the other, up to the first namespace without one. -/
theorem passes_pruneFrom (h : judge.Retires target processed keeps recorded) {list : List String}
    (hlist : ∀ ns ∈ list, ns ∈ NamespaceList.stale target.namespaces processed)
    (hk : keeps report source state) :
    (source.pruneFrom list).Passes judge state fun pruned =>
      keeps { report with pruned := report.pruned ++ pruned.namespaces } pruned.source := by
  -- The report has a deletion as soon as it is made, the result only at the end of the list.
  induction list generalizing source state report with
  | nil =>
    rw [pruneFrom, passes_pure, List.append_nil]
    exact hk
  | cons ns rest ih =>
    obtain ⟨hns, hrest⟩ := List.forall_mem_cons.mp hlist
    rw [pruneFrom]
    refine (h.withdraw hk hns).bind fun removal after hremoval => ?_
    refine (h.drop hremoval fun _ => hns).bind fun stored final hstored => ?_
    cases removal with
    | alreadyAbsent =>
      rw [passes_pure, List.append_nil]
      exact hstored
    | notOwned => exact ih hrest hstored
    | deleted =>
      refine (ih hrest hstored).bind fun pruned _ hpruned => ?_
      simpa [Report.withRemoval] using hpruned

/-- A source without a record of targets has nothing to take away. -/
theorem passes_retire (h : judge.Retires target source.processed keeps recorded)
    (first : source.processed = [] → recorded {} source state)
    (later : source.processed ≠ [] → keeps {} source state) :
    (source.retire target).Passes judge state fun result =>
      recorded { pruned := result.2 } result.1 := by
  have hrecord : ∀ {stored : ClusterConfig} {after : κ} {pruned : List String},
      keeps { pruned } stored after →
      (do let stored ← stored.recordProcessed target.namespaces
          return (stored, pruned) : Program (ClusterConfig × List String)).Passes judge after
        fun result => recorded { pruned := result.2 } result.1 :=
    fun hstored => (h.record hstored).bind fun _ _ hrecorded => hrecorded
  unfold retire
  split
  · next hfirst => exact first (List.isEmpty_iff.mp hfirst)
  · next hlater =>
    have hk := later fun hnil => hlater (List.isEmpty_iff.mpr hnil)
    refine (passes_pruneFrom h (fun _ mem => mem) hk).bind fun pruned after hpruned => ?_
    dsimp only
    split
    · exact (h.drop hpruned fun hforeign => absurd hforeign everyToken_not_foreign).bind
        fun _ _ hstored => hrecord hstored
    · exact hrecord hpruned

theorem passes_addTokens (keeps : ClusterConfig → κ → Prop) {tokens : List String}
    (add : ∀ token ∈ tokens, ∀ source state, keeps source state →
      (source.addToken token).Passes judge state keeps) (hk : keeps source state) :
    ((source.missingTokens tokens).foldlM addToken source).Passes judge state keeps :=
  passes_foldlM (fun token mem => add token (List.mem_filter.mp (List.mem_eraseDups.mp mem)).1) hk

/-- The report on copies that are brought up to date goes by what comes of each. -/
theorem passes_copyTo (keeps : Report → κ → Prop) (pruned : List String)
    {namespaces : List String}
    (copy : ∀ ns ∈ namespaces, ∀ report state, keeps report state →
      (source.synchronize source.spec.kind ns).Passes judge state fun outcome =>
        keeps (report.withOutcome ns outcome)) (hk : keeps { pruned } state) :
    (source.copyTo namespaces).Passes judge state fun outcomes =>
      keeps (.ofOutcomes outcomes pruned) := by
  refine passes_mapM (fun outcomes => keeps (.ofOutcomes outcomes pruned))
    (fun ns mem outcomes after hafter => ?_) [] hk
  refine (copy ns mem _ after hafter).bind fun outcome _ hcopied => ?_
  rw [passes_pure, Report.ofOutcomes_concat]
  exact hcopied

/-- Of the tokens that a source holds, those of single namespaces are not foreign. -/
theorem passes_dropTokens {keeps : ClusterConfig → κ → Prop}
    (drop : ∀ {source state token}, keeps source state → ¬ isForeignFinalizer token = true →
      (source.dropToken token).Passes judge state keeps) (hk : keeps source state) :
    (source.dropTokens source.namespaceTokens).Passes judge state keeps :=
  passes_foldlM (fun _ mem _ _ hstored => drop hstored (source.not_foreign_of_mem mem)) hk

theorem passes_settle {keeps : ClusterConfig → κ → Prop}
    (drop : ∀ {source state token}, keeps source state → ¬ isForeignFinalizer token = true →
      (source.dropToken token).Passes judge state keeps) (hk : keeps source state) :
    (if target.all then source.dropTokens source.namespaceTokens
      else pure source : Program ClusterConfig).Passes judge state keeps := by
  split
  · exact passes_dropTokens drop hk
  · exact hk

/-- A round for a source that stays, in two stretches. What it returns is the report. -/
theorem passes_stretches {holds : Report → κ → Prop}
    (resolves : (resolve source.spec.namespaceList).Passes judge state fun target after =>
      ∃ keeps recorded, judge.Retires target source.processed keeps recorded ∧
        judge.CatchesUp target recorded holds ∧
        (source.processed = [] → recorded {} source after) ∧
        (source.processed ≠ [] → keeps {} source after)) :
    source.apply.Passes judge state holds := by
  unfold apply
  refine resolves.bind ?_
  rintro target after ⟨keeps, recorded, hretires, hcatches, first, later⟩
  refine (passes_retire hretires first later).bind ?_
  rintro ⟨retired, pruned⟩ after hretired
  refine (passes_addTokens _ (fun token mem _ _ hstored => hcatches.add hstored mem) hretired).bind
    fun guarded after hguarded => ?_
  refine (passes_copyTo (fun report => recorded report guarded) pruned
    (fun ns mem _ _ hcopied => hcatches.copy hcopied mem) hguarded).bind
    fun outcomes after hcopied => ?_
  dsimp only
  -- Both ways of settling are followed by the same record.
  rw [← apply_ite (· >>= _)]
  refine (passes_settle hcatches.settle hcopied).bind fun settled after hsettled => ?_
  exact (hcatches.finish hsettled).discard.bind fun _ _ hdone => hdone

/-- A round for a source that stays, if the same is kept in both stretches. -/
theorem passes_apply {holds : Report → κ → Prop}
    (resolves : (resolve source.spec.namespaceList).Passes judge state fun target after =>
      ∃ keeps, judge.Applies target source.processed keeps ∧ keeps {} source after ∧
        ∀ report stored final, keeps report stored final → holds report final) :
    source.apply.Passes judge state holds := by
  refine passes_stretches (resolves.mono ?_)
  rintro target after ⟨keeps, h, hk, hholds⟩
  have hcatches : judge.CatchesUp target keeps holds := {
    add := h.add
    copy := h.copy
    settle := fun hk hown => h.drop hk fun hforeign => absurd hforeign hown
    finish := fun hk => (h.record hk).mono fun stored final hstored =>
      hholds _ stored final hstored }
  exact ⟨keeps, keeps, h.toRetires, hcatches, fun _ => hk, fun _ => hk⟩

end ClusterConfig

/-! ## Sources on their way out -/

/-- What is kept all through a round for a source on its way out, and what else is while all
namespaces are swept. -/
structure Judge.Departs (judge : Judge κ) (first : ClusterConfig) (target : TargetSet)
    (keeps : ClusterConfig → κ → Prop) (sweeps : List String → ClusterConfig → κ → Prop) :
    Prop where
  withdraw : ∀ {source state ns}, keeps source state →
    ns ∈ target.namespaces ∨ ns ∈ first.namespaceTokens →
    (source.withdraw source.spec.kind ns).Passes judge state fun _ => keeps source
  drop : ∀ {source state token}, keeps source state →
    (isForeignFinalizer token = true → target.all = false ∧ token ∈ target.namespaces) →
    (source.dropToken token).Passes judge state keeps
  list : ∀ {source state}, keeps source state → target.all = false →
    source.holds everyToken = true →
    judge.call .listNamespaces state (judge.returns fun live => sweeps live source)
  sweep : ∀ {source state live ns}, sweeps live source state → ns ∈ live →
    (source.withdraw source.spec.kind ns).Passes judge state fun _ => sweeps live source
  swept : ∀ {source state live}, sweeps live source state → keeps source state

namespace ClusterConfig

variable {first source : ClusterConfig} {target : TargetSet} {keeps : ClusterConfig → κ → Prop}
  {sweeps : List String → ClusterConfig → κ → Prop}

theorem passes_sweep (h : judge.Departs first target keeps sweeps) {holds : κ → Prop}
    {live : List String}
    (withdraw : ∀ ns ∈ live, ∀ state, holds state →
      (source.withdraw source.spec.kind ns).Passes judge state fun _ => holds)
    (hkeeps : ∀ state, holds state → keeps source state) (hstate : holds state) :
    (source.sweep live).Passes judge state fun _ after => ∃ stored, keeps stored after := by
  unfold sweep
  refine Passes.bind (passes_forM (fun ns mem after hafter =>
    (withdraw ns mem after hafter).discard) hstate) fun _ after hafter => ?_
  have hdrop : ∀ {source : ClusterConfig} {after : κ} {token : String}, keeps source after →
      ¬ isForeignFinalizer token = true → (source.dropToken token).Passes judge after keeps :=
    fun hk hown => h.drop hk fun hforeign => absurd hforeign hown
  refine (hdrop (hkeeps after hafter) everyToken_not_foreign).bind fun stored final hstored => ?_
  exact Passes.discard ((passes_dropTokens hdrop hstored).mono
    fun stored _ hdone => ⟨stored, hdone⟩)

theorem passes_clear (h : judge.Departs first target keeps sweeps) (explicit : target.all = false)
    (hk : keeps source state) :
    (source.clear (target.namespaces ++
      NamespaceList.stale target.namespaces first.namespaceTokens)).Passes judge state keeps := by
  refine passes_foldlM (fun ns mem source after hk => ?_) hk
  have hns : ns ∈ target.namespaces ∨ ns ∈ first.namespaceTokens :=
    (List.mem_append.mp mem).imp_right fun mem => (NamespaceList.mem_stale.mp mem).1
  refine (h.withdraw hk hns).discard.bind fun _ _ hafter => h.drop hafter fun hforeign => ?_
  exact ⟨explicit, hns.resolve_right fun mem => not_foreign_of_mem mem hforeign⟩

/-- A round for a source on its way out, once its target is known. -/
theorem passes_cleanup {holds : κ → Prop}
    (resolves : (resolve source.spec.namespaceList).Passes judge state fun target after =>
      ∃ keeps sweeps, judge.Departs source target keeps sweeps ∧ keeps source after ∧
        ∀ stored final, keeps stored final → holds final) :
    source.cleanup.Passes judge state fun _ => holds := by
  unfold cleanup
  refine resolves.bind ?_
  rintro target after ⟨keeps, sweeps, h, hk, hholds⟩
  have hdone : ∀ {source : ClusterConfig} {live : List String} {after : κ},
      (source.sweep live).Passes judge after (fun _ final => ∃ stored, keeps stored final) →
      (source.sweep live).Passes judge after fun _ => holds :=
    fun hsweep => hsweep.mono fun _ final ⟨stored, hstored⟩ => hholds stored final hstored
  split
  · exact hdone (passes_sweep h (fun ns mem _ hany => h.withdraw hany (.inl mem))
      (fun _ hany => hany) hk)
  · next hexplicit =>
    have explicit : target.all = false := by simpa using hexplicit
    refine (passes_clear h explicit hk).bind fun cleared after hcleared => ?_
    split
    · next hheld =>
      refine Passes.bind (passes_ask.mpr (h.list hcleared explicit hheld))
        fun live after hlisted => ?_
      exact hdone (passes_sweep h (fun ns mem _ hany => h.sweep hany mem) (fun _ => h.swept)
        hlisted)
    · exact hholds cleared after hcleared

end ClusterConfig

/-! ## Whole rounds -/

theorem ClusterConfig.passes_round {source : ClusterConfig} {holds : κ → Prop}
    (stays : source.isDeleting = false → source.apply.Passes judge state fun _ => holds)
    (leaves : source.isDeleting = true → source.cleanup.Passes judge state fun _ => holds) :
    source.round.Passes judge state fun _ => holds := by
  unfold round
  split
  · next hleaves => exact (leaves hleaves).bind fun _ _ hdone => hdone
  · next hstays => exact (stays (by simpa using hstays)).bind fun _ _ hdone => hdone

end ConfigFanout
