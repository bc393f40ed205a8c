import ConfigFanout.Proofs.Faults

-- What a program does on its way: its calls, each with the state that it finds and the answer
-- that it gets, and its events. A program that is put together from parts does what the parts
-- do, one after the other.
namespace ConfigFanout

/-- Something that a program does. -/
inductive Act (σ : Type) where
  /-- A call, with the state that it found and the answer that it got. -/
  | asked (state : σ) (request : StoreCall) (answer : Except Error request.Answer)
  /-- An event. -/
  | told (event : Event)

namespace Act

variable {σ τ : Type}

/-- What is seen of it through a view of the states. -/
def view (f : τ → σ) : Act τ → Act σ
  | .asked state request answer => .asked (f state) request answer
  | .told event => .told event

def call? : Act σ → Option StoreCall
  | .asked _ request _ => some request
  | .told _ => none

def event? : Act σ → Option Event
  | .asked .. => none
  | .told event => some event

@[simp] theorem call?_view (f : τ → σ) (act : Act τ) : (act.view f).call? = act.call? := by
  cases act <;> rfl

@[simp] theorem event?_view (f : τ → σ) (act : Act τ) : (act.view f).event? = act.event? := by
  cases act <;> rfl

end Act

namespace Program

variable {σ α β : Type}

/-- What a program does when a store runs it, in order. -/
def acts (store : Store σ) : Program α → σ → List (Act σ)
  | .done _, _ => []
  | .call request next, state =>
    .asked state request (store.answer request state).1 ::
      (next (store.answer request state).1).acts store (store.answer request state).2
  | .publish event next, state => .told event :: next.acts store (store.record event state)

variable {around : Surroundings σ}

/-- Every run from a state does things, has a result and leaves a state as `holds` says. -/
def Traces (around : Surroundings σ) :
    Program α → σ → (List (Act σ) → Except Error α → σ → Prop) → Prop
  | .done result, state, holds => holds [] result state
  | .call request next, state, holds =>
    ∀ answer after, around.answers request state answer after →
      (next answer).Traces around after fun later => holds (.asked state request answer :: later)
  | .publish event next, state, holds =>
    next.Traces around (around.records event state) fun later => holds (.told event :: later)

variable {state : σ} {holds : List (Act σ) → Except Error α → σ → Prop}

@[simp] theorem traces_pure (value : α) :
    (pure value : Program α).Traces around state holds ↔ holds [] (.ok value) state :=
  Iff.rfl

theorem traces_ask (request : StoreCall)
    {holds : List (Act σ) → Except Error request.Answer → σ → Prop} :
    (ask request).Traces around state holds ↔
      ∀ answer after, around.answers request state answer after →
        holds [.asked state request answer] answer after :=
  Iff.rfl

theorem Traces.mono {program : Program α} {holds' : List (Act σ) → Except Error α → σ → Prop}
    (h : program.Traces around state holds)
    (himp : ∀ acts result after, holds acts result after → holds' acts result after) :
    program.Traces around state holds' := by
  induction program generalizing state holds holds' with
  | done result => exact himp _ _ _ h
  | call request next ih =>
    exact fun answer after ha => ih answer (h answer after ha) fun acts => himp _
  | publish event next ih => exact ih h fun acts => himp _

theorem Traces.and {program : Program α} {holds' : List (Act σ) → Except Error α → σ → Prop}
    (h : program.Traces around state holds) (h' : program.Traces around state holds') :
    program.Traces around state fun acts result after =>
      holds acts result after ∧ holds' acts result after := by
  induction program generalizing state holds holds' with
  | done result => exact ⟨h, h'⟩
  | call request next ih =>
    exact fun answer after ha => ih answer (h answer after ha) (h' answer after ha)
  | publish event next ih => exact ih h h'

/-- The end of a run is as its outcomes are, whatever was done on the way. -/
theorem Ensures.traces {program : Program α} {onDone : α → σ → Prop}
    {onFail : Error → σ → Prop} (h : program.Ensures around state onDone onFail) :
    program.Traces around state fun _ result after =>
      match result with
      | .ok value => onDone value after
      | .error error => onFail error after := by
  induction program generalizing state with
  | done result => cases result <;> exact h
  | call request next ih => exact fun answer after ha => ih answer (h answer after ha)
  | publish event next ih => exact ih h

theorem ensures_true (program : Program α) :
    program.Ensures around state (fun _ _ => True) fun _ _ => True := by
  induction program generalizing state with
  | done result => cases result <;> trivial
  | call request next ih => exact fun answer after _ => ih answer
  | publish event next ih => exact ih

/-- A program in two parts does what the first part does, and then what the second one does. -/
theorem traces_bind (first : Program α) (second : α → Program β)
    {holds : List (Act σ) → Except Error β → σ → Prop} :
    (first >>= second).Traces around state holds ↔
      first.Traces around state fun acts result after =>
        match result with
        | .ok value => (second value).Traces around after fun later => holds (acts ++ later)
        | .error error => holds acts (.error error) after := by
  induction first generalizing state holds with
  | done result => cases result <;> exact Iff.rfl
  | call request next ih =>
    exact forall_congr' fun answer => forall_congr' fun after => imp_congr_right fun _ =>
      ih answer
  | publish event next ih => exact ih

/-- A program whose error is taken as a result does the same. -/
theorem traces_attempt (program : Program α)
    {holds : List (Act σ) → Except Error (Except Error α) → σ → Prop} :
    program.attempt.Traces around state holds ↔
      program.Traces around state fun acts result => holds acts (.ok result) := by
  induction program generalizing state holds with
  | done result => exact Iff.rfl
  | call request next ih =>
    exact forall_congr' fun answer => forall_congr' fun after => imp_congr_right fun _ =>
      ih answer
  | publish event next ih => exact ih

theorem traces_map (f : α → β) (program : Program α)
    {holds : List (Act σ) → Except Error β → σ → Prop} :
    (f <$> program).Traces around state holds ↔
      program.Traces around state fun acts result => holds acts (result.map f) := by
  rw [map_eq_pure_bind, traces_bind]
  constructor <;> intro h <;> refine h.mono ?_ <;> rintro acts (error | value) after hholds
  · exact hholds
  · simpa [Except.map] using hholds
  · exact hholds
  · simpa [Except.map] using hholds

/-- Two parts in a row, the first with what it does and how it ends. -/
theorem Traces.bind {first : Program α} {second : α → Program β} {does : List (Act σ) → Prop}
    {onDone : α → σ → Prop} {onFail : Error → σ → Prop}
    {holds : List (Act σ) → Except Error β → σ → Prop}
    (h : first.Traces around state fun acts _ _ => does acts)
    (hends : first.Ensures around state onDone onFail)
    (hdone : ∀ acts value after, does acts → onDone value after →
      (second value).Traces around after fun later => holds (acts ++ later))
    (hfail : ∀ acts error after, does acts → onFail error after →
      holds acts (.error error) after) :
    (first >>= second).Traces around state holds := by
  refine (traces_bind first second).mpr ((h.and hends.traces).mono ?_)
  rintro acts (error | value) after ⟨hacts, hend⟩
  · exact hfail acts error after hacts hend
  · exact hdone acts value after hacts hend

theorem ofExcept_ok (value : α) : ofExcept (.ok value) = (pure value : Program α) := rfl

/-! ## Acts as a memory -/

end Program

/-- The surroundings with a memory of what was done in them. -/
def Surroundings.noting {σ : Type} (around : Surroundings σ) : Surroundings (List (Act σ) × σ) where
  answers request noted answer after :=
    around.answers request noted.2 answer after.2 ∧
      after.1 = noted.1 ++ [.asked noted.2 request answer]
  records event noted := (noted.1 ++ [.told event], around.records event noted.2)

namespace Program

variable {σ α : Type} {around : Surroundings σ} {state : σ}

/-- What is ensured of a program with a memory is known of the acts of all runs. -/
theorem ensures_noting {program : Program α} {past : List (Act σ)}
    {onDone : α → List (Act σ) × σ → Prop} {onFail : Error → List (Act σ) × σ → Prop} :
    program.Ensures around.noting (past, state) onDone onFail ↔
      program.Traces around state fun acts result after =>
        (around.noting.judge onFail).returns onDone result (past ++ acts, after) := by
  induction program generalizing state past with
  | done result =>
    show (around.noting.judge onFail).returns onDone result (past, state) ↔
      (around.noting.judge onFail).returns onDone result (past ++ [], state)
    rw [List.append_nil]
  | call request next ih =>
    have hnext := fun answer after => @ih answer after (past ++ [.asked state request answer])
    simp only [List.append_assoc, List.singleton_append] at hnext
    constructor
    · exact fun h answer after ha => (hnext answer after).mp (h answer (_, after) ⟨ha, rfl⟩)
    · rintro h answer ⟨_, after⟩ ⟨ha, rfl⟩
      exact (hnext answer after).mpr (h answer after ha)
  | publish event next ih =>
    have hnext := @ih (around.records event state) (past ++ [.told event])
    simp only [List.append_assoc, List.singleton_append] at hnext
    exact hnext

/-! ## Acts of one kind -/

end Program

/-- Asks of all that is done that it is as `allowed` says. How a program fails does not matter. -/
def Surroundings.allowing {σ : Type} (around : Surroundings σ) (allowed : Act σ → Prop) :
    Judge σ where
  call request state holds := ∀ answer after, around.answers request state answer after →
    allowed (.asked state request answer) ∧ holds answer after
  tell event state holds := allowed (.told event) ∧ holds (around.records event state)
  fail _ _ := True
  call_mono h himp answer after ha := ⟨(h answer after ha).1, himp _ _ (h answer after ha).2⟩
  tell_mono h himp := ⟨h.1, himp _ h.2⟩

namespace Program

variable {σ α : Type} {around : Surroundings σ} {state : σ} {allowed : Act σ → Prop}

/-- All that is done on any run from a state is as `allowed` says. -/
def Always (around : Surroundings σ) (program : Program α) (state : σ)
    (allowed : Act σ → Prop) : Prop :=
  program.Passes (around.allowing allowed) state fun _ _ => True

theorem Passes.always {program : Program α} {holds : α → σ → Prop}
    (h : program.Passes (around.allowing allowed) state holds) :
    program.Always around state allowed :=
  h.mono fun _ _ _ => trivial

theorem Always.traces {program : Program α} (h : program.Always around state allowed) :
    program.Traces around state fun acts _ _ => ∀ act ∈ acts, allowed act := by
  induction program generalizing state with
  | done result => exact fun _ mem => absurd mem List.not_mem_nil
  | call request next ih =>
    intro answer after ha
    obtain ⟨hact, hnext⟩ := h answer after ha
    exact (ih answer hnext).mono fun later _ _ hlater => List.forall_mem_cons.mpr ⟨hact, hlater⟩
  | publish event next ih =>
    show next.Traces around (around.records event state) _
    exact (ih h.2).mono fun later _ _ hlater => List.forall_mem_cons.mpr ⟨h.1, hlater⟩

/-- What is ensured of the end of a program may be asked of it together with its acts. -/
theorem Always.passes {program : Program α} {onDone holds : α → σ → Prop}
    {onFail : Error → σ → Prop} (h : program.Always around state allowed)
    (hends : program.Ensures around state onDone onFail)
    (hdone : ∀ value after, onDone value after → holds value after) :
    program.Passes (around.allowing allowed) state holds := by
  induction program generalizing state with
  | done result =>
    cases result with
    | ok value => exact hdone value state hends
    | error error => trivial
  | call request next ih =>
    intro answer after ha
    exact ⟨(h answer after ha).1, ih answer (h answer after ha).2 (hends answer after ha)⟩
  | publish event next ih => exact ⟨h.1, ih h.2 hends⟩

theorem allowing_returns {request : StoreCall} {holds : request.Answer → σ → Prop}
    (h : ∀ answer, allowed (.asked state request answer))
    (hdone : ∀ value after, holds value after) :
    (around.allowing allowed).call request state ((around.allowing allowed).returns holds) := by
  refine fun answer after _ => ⟨h answer, ?_⟩
  cases answer with
  | ok value => exact hdone value after
  | error error => trivial

theorem allowing_finds {request : StoreCall} {missing : σ → Prop}
    {holds : request.Answer → σ → Prop} (h : ∀ answer, allowed (.asked state request answer))
    (hmissing : ∀ after, missing after) (hfound : ∀ value after, holds value after) :
    (around.allowing allowed).call request state
      ((around.allowing allowed).finds missing holds) := by
  refine fun answer after _ => ⟨h answer, ?_⟩
  cases answer with
  | ok value => exact hfound value after
  | error error => exact Judge.finds_error (hmissing after) trivial

@[simp] theorem always_done (result : Except Error α) :
    (done result).Always around state allowed := by
  cases result <;> trivial

theorem always_ask {request : StoreCall}
    (h : ∀ answer, allowed (.asked state request answer)) :
    (ask request).Always around state allowed :=
  fun answer _ _ => ⟨h answer, always_done answer⟩

/-! ## The one run that a store makes -/

/-- What is known of all runs holds of the one that a store makes. -/
theorem Traces.run {τ : Type} {store : Store τ} {view : τ → σ} {valid : τ → Prop}
    (hs : around.Admits store view valid) {program : Program α} {state : τ}
    (hv : valid state) (h : program.Traces around (view state) holds) :
    holds ((program.acts store state).map (Act.view view)) (program.run store state).1
      (view (program.run store state).2) := by
  induction program generalizing state holds with
  | done result => exact h
  | call request next ih =>
    exact ih _ (hs.valid_answer request state hv) (h _ _ (hs.answers request state hv))
  | publish event next ih =>
    have hnext : next.Traces around (view (store.record event state))
        fun later => holds (.told event :: later) := by
      rw [hs.records event state hv]
      exact h
    exact ih (hs.valid_record event state hv) hnext

end Program

/-- A store as surroundings, in which each call has one answer. -/
def Store.surroundings {σ : Type} (store : Store σ) : Surroundings σ where
  answers request state answer after := store.answer request state = (answer, after)
  records := store.record

/-- What is known of all runs in the surroundings that a store is, is known of its run. -/
theorem Program.Traces.store {σ α : Type} {store : Store σ} {program : Program α} {state : σ}
    {holds : List (Act σ) → Except Error α → σ → Prop}
    (h : program.Traces store.surroundings state holds) :
    holds (program.acts store state) (program.run store state).1
      (program.run store state).2 := by
  induction program generalizing state holds with
  | done result => exact h
  | call request next ih => exact ih _ (h _ _ rfl)
  | publish event next ih => exact ih h

/-- What a program does in a simulation, with the clusters that its calls find. -/
def Simulation.acts {α : Type} (simulation : Simulation) (program : Program α) :
    List (Act Cluster) :=
  (program.acts store simulation).map (Act.view (·.cluster))

theorem Program.Traces.simulate {α : Type} {may : Refusal → Prop} {program : Program α}
    {simulation : Simulation} {holds : List (Act Cluster) → Except Error α → Cluster → Prop}
    (h : program.Traces (Cluster.faulty may) simulation.cluster holds)
    (hs : simulation.Undisturbed may) :
    holds (simulation.acts program) (program.run Simulation.store simulation).1
      (program.run Simulation.store simulation).2.cluster :=
  Traces.run (Simulation.faulty_admits may) hs h

/-! ## What a simulation takes note of -/

namespace Simulation

variable {simulation after : Simulation}

theorem notes_editSource {key : ObjectKey} {patch : Json}
    (h : simulation.editSource key patch = .ok after) :
    after.calls = simulation.calls ∧ after.events = simulation.events := by
  unfold editSource at h
  split at h
  · cases h
  · simp only [bind, Except.bind] at h
    split at h
    · cases h
    · cases h
      exact ⟨rfl, rfl⟩

/-- Others who change the cluster leave the notes alone. -/
theorem notes_change {change : Change} (h : simulation.change change = .ok after) :
    after.calls = simulation.calls ∧ after.events = simulation.events := by
  cases change with
  | editSource => exact notes_editSource h
  | markDeleting => exact notes_editSource h
  | putSource | putArtifact =>
    simp only [Simulation.change, bind, Except.bind] at h
    split at h
    · cases h
    · cases h
      exact ⟨rfl, rfl⟩
  | unknown => cases h
  | _ =>
    cases h
    exact ⟨rfl, rfl⟩

theorem notes_changeAll (simulation : Simulation) (changes : List Change) :
    (simulation.changeAll changes).calls = simulation.calls ∧
      (simulation.changeAll changes).events = simulation.events := by
  unfold changeAll
  induction changes generalizing simulation with
  | nil => exact ⟨rfl, rfl⟩
  | cons change rest ih =>
    rw [List.foldl_cons]
    cases hchange : simulation.change change with
    | ok next =>
      obtain ⟨hcalls, hevents⟩ := notes_change hchange
      rw [← hcalls, ← hevents]
      exact ih next
    | error fault => exact ih simulation

theorem notes_answer (request : StoreCall) (simulation : Simulation) :
    (simulation.answer request).2.calls = simulation.calls ++ [request] ∧
      (simulation.answer request).2.events = simulation.events := by
  unfold answer
  dsimp only
  split <;> exact notes_changeAll _ _

theorem notes_store {α : Type} (program : Program α) (simulation : Simulation) :
    (program.run store simulation).2.calls =
        simulation.calls ++ (program.acts store simulation).filterMap Act.call? ∧
      (program.run store simulation).2.events =
        simulation.events ++ (program.acts store simulation).filterMap Act.event? := by
  induction program generalizing simulation with
  | done result => exact ⟨(List.append_nil _).symm, (List.append_nil _).symm⟩
  | call request next ih =>
    obtain ⟨hcalls, hevents⟩ := simulation.notes_answer request
    obtain ⟨hlater, htold⟩ := ih (simulation.answer request).1 (simulation.answer request).2
    constructor
    · rw [hcalls, List.append_assoc] at hlater
      exact hlater
    · rw [hevents] at htold
      exact htold
  | publish event next ih =>
    obtain ⟨hlater, htold⟩ := ih { simulation with events := simulation.events ++ [event] }
    constructor
    · exact hlater
    · rw [List.append_assoc] at htold
      exact htold

theorem notes_run {α : Type} (program : Program α) (simulation : Simulation) :
    (program.run store simulation).2.calls =
        simulation.calls ++ (simulation.acts program).filterMap Act.call? ∧
      (program.run store simulation).2.events =
        simulation.events ++ (simulation.acts program).filterMap Act.event? := by
  have hnotes := notes_store program simulation
  have hcall : Act.call? ∘ Act.view (·.cluster) = (Act.call? : Act Simulation → _) :=
    funext (Act.call?_view _)
  have hevent : Act.event? ∘ Act.view (·.cluster) = (Act.event? : Act Simulation → _) :=
    funext (Act.event?_view _)
  rw [acts, List.filterMap_map, List.filterMap_map, hcall, hevent]
  exact hnotes

end Simulation

end ConfigFanout
