import ConfigFanout.Proofs.Judges

-- What holds at the end of every run of a program, when its surroundings may answer a call
-- in more than one way. A program that is put together from parts is reasoned about part
-- by part, and what is shown here holds for each store that keeps to the surroundings.
namespace ConfigFanout

/-- Surroundings of a program: the answers that a call may get, each with the state that is
left then, and what an event does to the state. -/
structure Surroundings (σ : Type) where
  answers : (request : StoreCall) → σ → Except Error request.Answer → σ → Prop
  records : Event → σ → σ

/-- A store keeps to the surroundings in the states that `valid` allows: its answers are
among theirs, seen through a view of its state, and such states are not left. -/
structure Surroundings.Admits {σ τ : Type} (around : Surroundings σ)
    (store : Store τ) (view : τ → σ) (valid : τ → Prop) : Prop where
  answers : ∀ request state, valid state →
    around.answers request (view state) (store.answer request state).1
      (view (store.answer request state).2)
  records : ∀ event state, valid state →
    view (store.record event state) = around.records event (view state)
  valid_answer : ∀ request state, valid state → valid (store.answer request state).2
  valid_record : ∀ event state, valid state → valid (store.record event state)

/-- Asks of every answer that a call may get what is asked of what follows. -/
def Surroundings.judge {σ : Type} (around : Surroundings σ) (onFail : Error → σ → Prop) :
    Judge σ where
  call request state holds :=
    ∀ answer after, around.answers request state answer after → holds answer after
  tell event state holds := holds (around.records event state)
  fail := onFail
  call_mono h himp answer after ha := himp answer after (h answer after ha)
  tell_mono h himp := himp _ h

namespace Program

variable {σ α β : Type} {around : Surroundings σ}

/-- Every run from a state ends with a value and a state as `onDone` says, or with an error
and a state as `onFail` says. -/
def Ensures (around : Surroundings σ) (program : Program α) (state : σ) (onDone : α → σ → Prop)
    (onFail : Error → σ → Prop) : Prop :=
  program.Passes (around.judge onFail) state onDone

variable {state : σ} {onDone : α → σ → Prop} {onFail : Error → σ → Prop}

theorem ensures_ask (request : StoreCall) {onDone : request.Answer → σ → Prop} :
    (ask request).Ensures around state onDone onFail ↔
      ∀ answer after, around.answers request state answer after →
        match answer with
        | .ok value => onDone value after
        | .error error => onFail error after := by
  constructor
  · intro h answer after ha
    have := h answer after ha
    cases answer <;> exact this
  · intro h answer after ha
    have := h answer after ha
    cases answer <;> exact this

theorem ensures_ofExcept (result : Except Error α) :
    (ofExcept result).Ensures around state onDone onFail ↔
      match result with
      | .ok value => onDone value state
      | .error error => onFail error state := by
  cases result <;> exact Iff.rfl

theorem ensures_bind (first : Program α) (second : α → Program β) {onDone : β → σ → Prop} :
    (first >>= second).Ensures around state onDone onFail ↔
      first.Ensures around state
        (fun value after => (second value).Ensures around after onDone onFail) onFail :=
  passes_bind first second

theorem ensures_attempt (program : Program α) {onDone : Except Error α → σ → Prop} :
    program.attempt.Ensures around state onDone onFail ↔
      program.Ensures around state (fun value => onDone (.ok value))
        fun error => onDone (.error error) := by
  induction program generalizing state with
  | done result => cases result <;> exact Iff.rfl
  | call request next ih =>
    exact forall_congr' fun answer => forall_congr' fun after => imp_congr_right fun _ =>
      ih answer
  | publish event next ih => exact ih

@[simp] theorem ensures_map (f : α → β) (program : Program α) {onDone : β → σ → Prop} :
    (f <$> program).Ensures around state onDone onFail ↔
      program.Ensures around state (fun value => onDone (f value)) onFail := by
  rw [map_eq_pure_bind, ensures_bind]
  exact Iff.rfl

@[simp] theorem ensures_discard (program : Program α) {onDone : PUnit → σ → Prop} :
    (discard program).Ensures around state onDone onFail ↔
      program.Ensures around state (fun _ => onDone ⟨⟩) onFail :=
  ensures_map _ program

theorem Ensures.mono {program : Program α} {onDone' : α → σ → Prop}
    {onFail' : Error → σ → Prop} (h : program.Ensures around state onDone onFail)
    (hdone : ∀ value after, onDone value after → onDone' value after)
    (hfail : ∀ error after, onFail error after → onFail' error after) :
    program.Ensures around state onDone' onFail' := by
  induction program generalizing state with
  | done result =>
    cases result with
    | ok value => exact hdone _ _ h
    | error error => exact hfail _ _ h
  | call request next ih => exact fun answer after ha => ih answer (h answer after ha)
  | publish event next ih => exact ih h

/-- What a program ensures in two ways holds together. -/
theorem Ensures.and {program : Program α} {onDone' : α → σ → Prop} {onFail' : Error → σ → Prop}
    (h : program.Ensures around state onDone onFail)
    (h' : program.Ensures around state onDone' onFail') :
    program.Ensures around state (fun value after => onDone value after ∧ onDone' value after)
      fun error after => onFail error after ∧ onFail' error after := by
  induction program generalizing state with
  | done result => cases result <;> exact ⟨h, h'⟩
  | call request next ih =>
    exact fun answer after ha => ih answer (h answer after ha) (h' answer after ha)
  | publish event next ih => exact ih h h'

theorem Ensures.bind {first : Program α} {second : α → Program β} {onDone' : β → σ → Prop}
    {onFail' : Error → σ → Prop} (h : first.Ensures around state onDone onFail)
    (hdone : ∀ value after, onDone value after →
      (second value).Ensures around after onDone' onFail')
    (hfail : ∀ error after, onFail error after → onFail' error after) :
    (first >>= second).Ensures around state onDone' onFail' :=
  (ensures_bind first second).mpr (h.mono hdone hfail)

/-! ## Stores that keep to the surroundings -/

/-- What a program ensures holds of the one run that a store makes. -/
theorem Ensures.run {τ : Type} {store : Store τ} {view : τ → σ} {valid : τ → Prop}
    (hs : around.Admits store view valid) {program : Program α} {state : τ}
    (hv : valid state) (h : program.Ensures around (view state) onDone onFail) :
    (∀ value after, program.run store state = (.ok value, after) → onDone value (view after)) ∧
      ∀ error after, program.run store state = (.error error, after) →
        onFail error (view after) := by
  induction program generalizing state with
  | done result =>
    constructor
    · rintro value after heq
      cases heq
      exact h
    · rintro error after heq
      cases heq
      exact h
  | call request next ih =>
    exact ih _ (hs.valid_answer request state hv) (h _ _ (hs.answers request state hv))
  | publish event next ih =>
    refine ih (hs.valid_record event state hv) ?_
    rw [hs.records event state hv]
    exact h

end Program

end ConfigFanout
