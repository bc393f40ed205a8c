import Mathlib.Data.List.Forall2
import ConfigFanout.Proofs.Holdings
import ConfigFanout.Proofs.Traces

-- Programs that are alike: they make calls that are alike, publish events that are alike and end
-- alike, as long as their calls are answered alike. What that means is open here. If it carries
-- over from the sources at hand to each single call, it carries over to whole rounds.
namespace ConfigFanout

/-- What counts as alike. -/
structure Likeness where
  calls : StoreCall → StoreCall → Prop
  answers : (request other : StoreCall) →
    Except Error request.Answer → Except Error other.Answer → Prop
  events : Event → Event → Prop
  errors : Error → Error → Prop

namespace Likeness

variable {like : Likeness} {α β : Type} {ends : α → β → Prop}

/-- Values as `ends` says, or errors that are alike. -/
inductive Results (like : Likeness) (ends : α → β → Prop) : Except Error α → Except Error β → Prop
  | ok {value : α} {other : β} : ends value other → Results like ends (.ok value) (.ok other)
  | error {fault other : Error} : like.errors fault other →
    Results like ends (.error fault) (.error other)

/-- Acts that are alike: events, or calls with answers. -/
inductive Acts {σ τ : Type} (like : Likeness) : Act σ → Act τ → Prop
  | asked {state : σ} {after : τ} {request other : StoreCall}
      {answer : Except Error request.Answer} {reply : Except Error other.Answer} :
    like.calls request other → like.answers request other answer reply →
    Acts like (.asked state request answer) (.asked after other reply)
  | told {event other : Event} : like.events event other → Acts like (.told event) (.told other)

end Likeness

namespace Program

variable {like : Likeness} {α β γ δ : Type} {ends : α → β → Prop} {ends' : γ → δ → Prop}

/-- Two programs that are alike. -/
inductive Alike (like : Likeness) (ends : α → β → Prop) : Program α → Program β → Prop
  | done {result : Except Error α} {other : Except Error β} : like.Results ends result other →
    Alike like ends (.done result) (.done other)
  | publish {event told : Event} {program : Program α} {other : Program β} :
    like.events event told → Alike like ends program other →
    Alike like ends (.publish event program) (.publish told other)
  | call {request asked : StoreCall} {next : Except Error request.Answer → Program α}
      {other : Except Error asked.Answer → Program β} : like.calls request asked →
    (∀ answer reply, like.answers request asked answer reply →
      Alike like ends (next answer) (other reply)) →
    Alike like ends (.call request next) (.call asked other)

namespace Alike

theorem pure {value : α} {other : β} (h : ends value other) :
    Alike like ends (Pure.pure value) (Pure.pure other) :=
  .done (.ok h)

theorem fail {error fault : Error} (h : like.errors error fault) :
    Alike like ends (Program.fail error) (Program.fail fault) :=
  .done (.error h)

theorem bind {program : Program α} {other : Program β} {next : α → Program γ}
    {nextOther : β → Program δ} (h : Alike like ends program other)
    (hnext : ∀ value twin, ends value twin → Alike like ends' (next value) (nextOther twin)) :
    Alike like ends' (program >>= next) (other >>= nextOther) := by
  induction h with
  | done hresult =>
    cases hresult with
    | ok hends => exact hnext _ _ hends
    | error herror => exact .fail herror
  | publish hevent _ ih => exact .publish hevent ih
  | call hcall _ ih => exact .call hcall ih

/-- Two parts in a row, where the first ones end in the same way. -/
theorem bindEq {program other : Program α} {next : α → Program γ} {nextOther : α → Program δ}
    (h : Alike like Eq program other)
    (hnext : ∀ value, Alike like ends' (next value) (nextOther value)) :
    Alike like ends' (program >>= next) (other >>= nextOther) :=
  h.bind fun value _ heq => heq ▸ hnext value

theorem attempt {program : Program α} {other : Program β} (h : Alike like ends program other) :
    Alike like (like.Results ends) program.attempt other.attempt := by
  induction h with
  | done hresult => exact .done (.ok hresult)
  | publish hevent _ ih => exact .publish hevent ih
  | call hcall _ ih => exact .call hcall ih

theorem discard {program : Program α} {other : Program β} (h : Alike like ends program other) :
    Alike like Eq (Functor.discard program) (Functor.discard other) := by
  have hbind : ∀ {α : Type} (program : Program α),
      Functor.discard program = program >>= fun _ => Pure.pure PUnit.unit :=
    fun program => map_eq_pure_bind _ program
  rw [hbind, hbind]
  exact h.bind fun _ _ _ => .pure rfl

theorem foldlM {step : β → α → Program β} {ends : β → β → Prop}
    (hstep : ∀ element value other, ends value other →
      Alike like ends (step value element) (step other element)) (list : List α)
    {value other : β} (h : ends value other) :
    Alike like ends (list.foldlM step value) (list.foldlM step other) := by
  induction list generalizing value other with
  | nil => exact .pure h
  | cons element rest ih =>
    rw [List.foldlM_cons, List.foldlM_cons]
    exact (hstep element value other h).bind fun _ _ => ih

theorem forM {step other : α → Program PUnit}
    (hstep : ∀ element, Alike like Eq (step element) (other element)) (list : List α) :
    Alike like Eq (list.forM step) (list.forM other) := by
  induction list with
  | nil => exact .pure rfl
  | cons element rest ih => exact (hstep element).bindEq fun _ => ih

theorem mapM {step other : α → Program β}
    (hstep : ∀ element, Alike like Eq (step element) (other element)) (list : List α) :
    Alike like Eq (list.mapM step) (list.mapM other) := by
  induction list with
  | nil => exact .pure rfl
  | cons element rest ih =>
    rw [List.mapM_cons, List.mapM_cons]
    exact (hstep element).bindEq fun _ => ih.bindEq fun _ => .pure rfl

/-- Two stores run programs that are alike in the same way if their answers to calls that are
alike are alike, in states that fit together. -/
theorem run {σ τ : Type} {store : Store σ} {twin : Store τ} {fits : σ → τ → Prop}
    (hanswers : ∀ {state : σ} {after : τ} {request other : StoreCall}, fits state after →
      like.calls request other →
      like.answers request other (store.answer request state).1 (twin.answer other after).1 ∧
        fits (store.answer request state).2 (twin.answer other after).2)
    (hrecords : ∀ {state : σ} {after : τ} (event told : Event), fits state after →
      fits (store.record event state) (twin.record told after))
    {program : Program α} {other : Program β} (h : Alike like ends program other) {state : σ}
    {after : τ} (hfits : fits state after) :
    List.Forall₂ like.Acts (program.acts store state) (other.acts twin after) ∧
      like.Results ends (program.run store state).1 (other.run twin after).1 ∧
      fits (program.run store state).2 (other.run twin after).2 := by
  induction h generalizing state after with
  | done hresult => exact ⟨.nil, hresult, hfits⟩
  | publish hevent _ ih =>
    obtain ⟨hacts, hend⟩ := ih (hrecords _ _ hfits)
    exact ⟨.cons (.told hevent) hacts, hend⟩
  | call hcall _ ih =>
    obtain ⟨hanswer, hafter⟩ := hanswers hfits hcall
    obtain ⟨hacts, hend⟩ := ih _ _ hanswer hafter
    exact ⟨.cons (.asked hcall hanswer) hacts, hend⟩

end Alike

end Program

open Program

/-! ## Single calls -/

/-- A likeness carries over from sources, and from artifacts of their kinds, to the calls that
are made for them. -/
structure Likeness.Carries (like : Likeness) (sources : ClusterConfig → ClusterConfig → Prop)
    (copies : {kind other : ArtifactKind} → Artifact kind → Artifact other → Prop) : Prop where
  name_eq : ∀ {source twin}, sources source twin → twin.metadata.name = source.metadata.name
  held_eq : ∀ {source twin}, sources source twin → twin.metadata.held = source.metadata.held
  list_eq : ∀ {source twin}, sources source twin →
    twin.spec.namespaceList = source.spec.namespaceList
  status_eq : ∀ {source twin}, sources source twin → twin.status = source.status
  deleting_eq : ∀ {source twin}, sources source twin → twin.isDeleting = source.isDeleting
  missing_eq : ∀ {error fault}, like.errors error fault → fault.isNotFound = error.isNotFound
  unnamed : like.errors (.missingMetadata "name") (.missingMetadata "name")
  foreign : ∀ {source twin}, sources source twin → ∀ place owner,
    like.errors (.foreign source.spec.kind.resource place owner)
      (.foreign twin.spec.kind.resource place owner)
  owner_eq : ∀ {source twin} {copy : Artifact source.spec.kind} {other : Artifact twin.spec.kind},
    sources source twin → copies copy other → other.otherOwner? twin = copy.otherOwner? source
  revise : ∀ {source twin} {copy : Artifact source.spec.kind} {other : Artifact twin.spec.kind},
    sources source twin → copies copy other →
    Option.Rel copies (source.revise copy) (twin.revise other)
  list : Alike like Eq (ask .listNamespaces) (ask .listNamespaces)
  update : ∀ {source twin}, sources source twin → ∀ finalizers,
    Alike like sources (ask (.updateSource (source.withFinalizers finalizers)))
      (ask (.updateSource (twin.withFinalizers finalizers)))
  record : ∀ {source twin}, sources source twin → ∀ status,
    Alike like sources (ask (.updateStatus { source with status }))
      (ask (.updateStatus { twin with status }))
  look : ∀ {source twin}, sources source twin → ∀ place,
    Alike like copies (ask (.getArtifact source.spec.kind place))
      (ask (.getArtifact twin.spec.kind place))
  create : ∀ {source twin}, sources source twin → ∀ name ns,
    Alike like (fun _ _ => True)
      (ask (.createArtifact source.spec.kind (source.newCopy source.spec.kind name ns)))
      (ask (.createArtifact twin.spec.kind (twin.newCopy twin.spec.kind name ns)))
  replace : ∀ {source twin} {copy : Artifact source.spec.kind} {other : Artifact twin.spec.kind},
    sources source twin → copies copy other →
    Alike like (fun _ _ => True) (ask (.replaceArtifact source.spec.kind copy))
      (ask (.replaceArtifact twin.spec.kind other))
  take : ∀ {source twin}, sources source twin → ∀ place,
    Alike like Eq (ask (.deleteArtifact source.spec.kind place))
      (ask (.deleteArtifact twin.spec.kind place))

namespace Likeness.Carries

variable {like : Likeness} {sources : ClusterConfig → ClusterConfig → Prop}
variable {copies : {kind other : ArtifactKind} → Artifact kind → Artifact other → Prop}
variable {source twin : ClusterConfig}

theorem holds_eq (h : like.Carries sources copies) (hs : sources source twin) (token : String) :
    twin.holds token = source.holds token := by
  rw [ClusterConfig.holds, ClusterConfig.holds, h.held_eq hs]

theorem namespaceTokens_eq (h : like.Carries sources copies) (hs : sources source twin) :
    twin.namespaceTokens = source.namespaceTokens := by
  rw [ClusterConfig.namespaceTokens, ClusterConfig.namespaceTokens, h.held_eq hs]

/-! ## The parts of a round -/

theorem resolve (h : like.Carries sources copies) (raw : String) :
    Alike like Eq (ConfigFanout.resolve raw) (ConfigFanout.resolve raw) := by
  unfold ConfigFanout.resolve
  dsimp only
  split
  · exact h.list.bindEq fun live => .pure rfl
  · exact .pure rfl

theorem addToken (h : like.Carries sources copies) (hs : sources source twin) (token : String) :
    Alike like sources (source.addToken token) (twin.addToken token) := by
  unfold ClusterConfig.addToken
  rw [h.holds_eq hs, h.held_eq hs]
  split
  · exact .pure hs
  · exact h.update hs _

theorem dropToken (h : like.Carries sources copies) (hs : sources source twin) (token : String) :
    Alike like sources (source.dropToken token) (twin.dropToken token) := by
  unfold ClusterConfig.dropToken
  rw [h.holds_eq hs, h.held_eq hs]
  split
  · exact h.update hs _
  · exact .pure hs

theorem dropTokens (h : like.Carries sources copies) (hs : sources source twin)
    (tokens : List String) :
    Alike like sources (source.dropTokens tokens) (twin.dropTokens tokens) :=
  Alike.foldlM (fun token _ _ hany => h.dropToken hany token) tokens hs

theorem recordProcessed (h : like.Carries sources copies) (hs : sources source twin)
    (namespaces : List String) :
    Alike like sources (source.recordProcessed namespaces) (twin.recordProcessed namespaces) := by
  unfold ClusterConfig.recordProcessed
  rw [h.status_eq hs]
  split
  · exact .pure hs
  · exact h.record hs _

theorem requireName (h : like.Carries sources copies) (hs : sources source twin) :
    Alike like Eq (ofExcept source.requireName) (ofExcept twin.requireName) := by
  unfold ClusterConfig.requireName
  rw [h.name_eq hs]
  cases source.metadata.name with
  | none => exact .fail h.unnamed
  | some name => exact .pure rfl

theorem absent {α : Type} (h : like.Carries sources copies) {error fault : Error}
    (herror : like.errors error fault) {missing other : Program α}
    (hmissing : Alike like Eq missing other) :
    Alike like Eq (if error.isNotFound then missing else Program.fail error)
      (if fault.isNotFound then other else Program.fail fault) := by
  rw [h.missing_eq herror]
  split
  · exact hmissing
  · exact .fail herror

theorem synchronize (h : like.Carries sources copies) (hs : sources source twin) (ns : String) :
    Alike like Eq (source.synchronize source.spec.kind ns)
      (twin.synchronize twin.spec.kind ns) := by
  unfold ClusterConfig.synchronize
  refine (h.requireName hs).bindEq fun name => (h.look hs ⟨ns, name⟩).attempt.bind ?_
  rintro _ _ (⟨hcopy⟩ | ⟨herror⟩)
  · dsimp only
    rw [h.owner_eq hs hcopy]
    split
    · exact .fail (h.foreign hs _ _)
    · have hrevise := h.revise hs hcopy
      revert hrevise
      generalize source.revise _ = revised, twin.revise _ = other
      rintro (hrevised | -)
      · exact (h.replace hs hrevised).discard.bindEq fun _ => .pure rfl
      · exact .pure rfl
  · exact h.absent herror ((h.create hs name ns).discard.bindEq fun _ => .pure rfl)

theorem withdraw (h : like.Carries sources copies) (hs : sources source twin) (ns : String) :
    Alike like Eq (source.withdraw source.spec.kind ns) (twin.withdraw twin.spec.kind ns) := by
  unfold ClusterConfig.withdraw
  refine (h.requireName hs).bindEq fun name => (h.look hs ⟨ns, name⟩).attempt.bind ?_
  rintro _ _ (⟨hcopy⟩ | ⟨herror⟩)
  · dsimp only
    rw [h.owner_eq hs hcopy]
    split
    · exact .pure rfl
    · refine (h.take hs ⟨ns, name⟩).attempt.bind ?_
      rintro _ _ (⟨-⟩ | ⟨herror⟩)
      · exact .pure rfl
      · exact h.absent herror (.pure rfl)
  · exact h.absent herror (.pure rfl)

theorem pruneFrom (h : like.Carries sources copies) (hs : sources source twin)
    (list : List String) :
    Alike like (fun pruned other => sources pruned.source other.source ∧
      other.namespaces = pruned.namespaces ∧ other.complete = pruned.complete)
      (source.pruneFrom list) (twin.pruneFrom list) := by
  induction list generalizing source twin with
  | nil => exact .pure ⟨hs, rfl, rfl⟩
  | cons ns rest ih =>
    rw [ClusterConfig.pruneFrom, ClusterConfig.pruneFrom]
    refine (h.withdraw hs ns).bindEq fun removal => ?_
    refine (h.dropToken hs ns).bind fun stored other hstored => ?_
    cases removal with
    | alreadyAbsent => exact .pure ⟨hstored, rfl, rfl⟩
    | notOwned => exact ih hstored
    | deleted =>
      refine (ih hstored).bind fun pruned others hpruned => ?_
      exact .pure ⟨hpruned.1, congrArg (ns :: ·) hpruned.2.1, hpruned.2.2⟩

theorem retire (h : like.Carries sources copies) (hs : sources source twin) (target : TargetSet) :
    Alike like (fun result other => sources result.1 other.1 ∧ other.2 = result.2)
      (source.retire target) (twin.retire target) := by
  have hprocessed : twin.processed = source.processed := by
    rw [ClusterConfig.processed, ClusterConfig.processed, h.status_eq hs]
  have hrecord : ∀ {stored other : ClusterConfig} (namespaces : List String),
      sources stored other →
      Alike like (fun result other => sources result.1 other.1 ∧ other.2 = result.2)
        (do let stored ← stored.recordProcessed target.namespaces
            return (stored, namespaces) : Program (ClusterConfig × List String))
        (do let stored ← other.recordProcessed target.namespaces
            return (stored, namespaces)) :=
    fun namespaces hstored =>
      (h.recordProcessed hstored _).bind fun _ _ hdone => .pure ⟨hdone, rfl⟩
  unfold ClusterConfig.retire
  rw [hprocessed]
  split
  · exact .pure ⟨hs, rfl⟩
  · refine (h.pruneFrom hs _).bind ?_
    rintro pruned other ⟨hsource, hnamespaces, hcomplete⟩
    dsimp only
    rw [hcomplete, hnamespaces]
    split
    · exact (h.dropToken hsource everyToken).bind fun _ _ hstored => hrecord _ hstored
    · exact hrecord _ hsource

theorem copyTo (h : like.Carries sources copies) (hs : sources source twin)
    (namespaces : List String) :
    Alike like Eq (source.copyTo namespaces) (twin.copyTo namespaces) :=
  Alike.mapM (fun ns => (h.synchronize hs ns).bindEq fun _ => .pure rfl) namespaces

theorem apply (h : like.Carries sources copies) (hs : sources source twin) :
    Alike like Eq source.apply twin.apply := by
  unfold ClusterConfig.apply
  rw [h.list_eq hs]
  refine (h.resolve _).bindEq fun target => (h.retire hs target).bind ?_
  rintro ⟨retired, pruned⟩ ⟨other, _⟩ ⟨hretired, rfl⟩
  have hmissing : other.missingTokens target.tokens = retired.missingTokens target.tokens := by
    simp only [ClusterConfig.missingTokens, h.holds_eq hretired]
  have hrecord : ∀ {settled other : ClusterConfig}, sources settled other → ∀ report : Report,
      Alike like Eq
        (do discard (settled.recordProcessed target.namespaces)
            return report : Program Report)
        (do discard (other.recordProcessed target.namespaces)
            return report) :=
    fun hsettled report =>
      (h.recordProcessed hsettled _).discard.bindEq fun _ => .pure rfl
  dsimp only
  rw [hmissing]
  refine (Alike.foldlM (fun token _ _ hany => h.addToken hany token) _ hretired).bind
    fun guarded other hguarded => (h.copyTo hguarded _).bindEq fun outcomes => ?_
  rw [h.namespaceTokens_eq hguarded]
  split
  · exact (h.dropTokens hguarded _).bind fun _ _ hsettled => hrecord hsettled _
  · exact hrecord hguarded _

theorem sweep (h : like.Carries sources copies) (hs : sources source twin) (live : List String) :
    Alike like Eq (source.sweep live) (twin.sweep live) := by
  unfold ClusterConfig.sweep
  refine (Alike.forM (fun ns => (h.withdraw hs ns).discard) live).bindEq fun _ => ?_
  refine (h.dropToken hs everyToken).bind fun stored other hstored => ?_
  rw [h.namespaceTokens_eq hstored]
  exact (h.dropTokens hstored _).discard

theorem clear (h : like.Carries sources copies) (hs : sources source twin)
    (namespaces : List String) :
    Alike like sources (source.clear namespaces) (twin.clear namespaces) := by
  refine Alike.foldlM (fun ns source twin hany => ?_) namespaces hs
  exact (h.withdraw hany ns).discard.bindEq fun _ => h.dropToken hany ns

theorem cleanup (h : like.Carries sources copies) (hs : sources source twin) :
    Alike like Eq source.cleanup twin.cleanup := by
  unfold ClusterConfig.cleanup
  rw [h.list_eq hs, h.namespaceTokens_eq hs]
  refine (h.resolve _).bindEq fun target => ?_
  split
  · exact h.sweep hs _
  · refine (h.clear hs _).bind fun cleared other hcleared => ?_
    rw [h.holds_eq hcleared]
    split
    · exact h.list.bindEq fun live => h.sweep hcleared live
    · exact .pure rfl

theorem round (h : like.Carries sources copies) (hs : sources source twin) :
    Alike like Eq source.round twin.round := by
  unfold ClusterConfig.round
  rw [h.deleting_eq hs]
  split
  · exact (h.cleanup hs).bindEq fun _ => .pure rfl
  · exact (h.apply hs).bindEq fun _ => .pure rfl

/-- Rounds are alike if the looks at their sources and the events about these are. -/
theorem reconcile (h : like.Carries sources copies) (key : ObjectKey)
    {fetched : ClusterConfig → ClusterConfig → Prop}
    (hfetch : Alike like fetched (ask (.getSource key)) (ask (.getSource key)))
    (hfetched : ∀ {source twin}, fetched source twin → sources source twin)
    (hsynced : ∀ {source twin}, fetched source twin → ∀ note,
      like.events ⟨source, .normal, "Synced", note⟩ ⟨twin, .normal, "Synced", note⟩)
    (hfailed : ∀ {source twin}, fetched source twin → ∀ {error fault}, like.errors error fault →
      like.events ⟨source, .warning, "ReconcileFailed", error.message⟩
        ⟨twin, .warning, "ReconcileFailed", fault.message⟩) :
    Alike like Eq (ConfigFanout.reconcile key) (ConfigFanout.reconcile key) := by
  unfold ConfigFanout.reconcile
  refine hfetch.attempt.bind ?_
  rintro _ _ (⟨hsource⟩ | ⟨herror⟩)
  · refine (h.round (hfetched hsource)).attempt.bind ?_
    rintro _ _ (⟨rfl⟩ | ⟨herror⟩)
    · dsimp only
      split
      · exact .publish (hsynced hsource _) (.pure rfl)
      · exact .pure rfl
    · exact .publish (hfailed hsource herror) (.fail herror)
  · exact h.absent herror (.pure rfl)

end Likeness.Carries

end ConfigFanout
