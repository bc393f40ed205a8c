import ConfigFanout.Program

-- What is asked of a program call by call. Whoever judges it has a state, which goes on with each
-- call and each event, and says what has to hold of each answer that may come. What is asked of a
-- program that is put together from parts is asked of one part after the other, whoever judges.
namespace ConfigFanout

/-- Someone who judges programs, with a state. -/
structure Judge (κ : Type) where
  /-- What is asked of a call if `holds` is asked of what follows it. -/
  call : (request : StoreCall) → κ → (Except Error request.Answer → κ → Prop) → Prop
  tell : Event → κ → (κ → Prop) → Prop
  /-- What is asked of a failure. -/
  fail : Error → κ → Prop
  call_mono : ∀ {request : StoreCall} {state : κ}
    {holds holds' : Except Error request.Answer → κ → Prop}, call request state holds →
    (∀ answer after, holds answer after → holds' answer after) → call request state holds'
  tell_mono : ∀ {event : Event} {state : κ} {holds holds' : κ → Prop}, tell event state holds →
    (∀ after, holds after → holds' after) → tell event state holds'

namespace Judge

variable {κ α : Type} (judge : Judge κ)

/-- What is asked of a result. -/
def returns (holds : α → κ → Prop) : Except Error α → κ → Prop
  | .ok value, state => holds value state
  | .error error, state => judge.fail error state

/-- What is asked of an answer where something may be missing. -/
def finds (missing : κ → Prop) (holds : α → κ → Prop) : Except Error α → κ → Prop
  | .ok value, state => holds value state
  | .error error, state => if error.isNotFound then missing state else judge.fail error state

variable {judge}

theorem finds_error {missing : κ → Prop} {holds : α → κ → Prop} {error : Error} {state : κ}
    (hmissing : missing state) (hfail : judge.fail error state) :
    judge.finds missing holds (.error error) state := by
  rw [finds]
  split
  · exact hmissing
  · exact hfail

end Judge

namespace Program

variable {κ α β : Type} {judge : Judge κ} {state : κ}

/-- A program passes if each of its calls and events does, and so does its result. -/
def Passes (judge : Judge κ) : Program α → κ → (α → κ → Prop) → Prop
  | .done result, state, holds => judge.returns holds result state
  | .call request next, state, holds =>
    judge.call request state fun answer after => (next answer).Passes judge after holds
  | .publish event next, state, holds =>
    judge.tell event state fun after => next.Passes judge after holds

@[simp] theorem passes_pure {value : α} {holds : α → κ → Prop} :
    (pure value : Program α).Passes judge state holds ↔ holds value state :=
  Iff.rfl

theorem passes_ask {request : StoreCall} {holds : request.Answer → κ → Prop} :
    (ask request).Passes judge state holds ↔ judge.call request state (judge.returns holds) :=
  Iff.rfl

theorem passes_try {request : StoreCall} {holds : Except Error request.Answer → κ → Prop} :
    (ask request).attempt.Passes judge state holds ↔ judge.call request state holds :=
  Iff.rfl

/-- A program in two parts passes one part after the other. -/
theorem passes_bind (first : Program α) (second : α → Program β) {holds : β → κ → Prop} :
    (first >>= second).Passes judge state holds ↔
      first.Passes judge state fun value after => (second value).Passes judge after holds := by
  induction first generalizing state with
  | done result => cases result <;> exact Iff.rfl
  | call request next ih =>
    exact iff_of_eq (congrArg (judge.call request state) (funext fun answer => funext fun after =>
      propext (ih answer)))
  | publish event next ih =>
    exact iff_of_eq (congrArg (judge.tell event state) (funext fun after => propext ih))

theorem Passes.mono {program : Program α} {holds holds' : α → κ → Prop}
    (h : program.Passes judge state holds)
    (himp : ∀ value after, holds value after → holds' value after) :
    program.Passes judge state holds' := by
  induction program generalizing state with
  | done result =>
    cases result with
    | ok value => exact himp value state h
    | error error => exact h
  | call request next ih => exact judge.call_mono h fun answer after hnext => ih answer hnext
  | publish event next ih => exact judge.tell_mono h fun after hnext => ih hnext

/-- Two parts in a row, where the second one starts from what the first one leaves. -/
theorem Passes.bind {first : Program α} {second : α → Program β} {holds : α → κ → Prop}
    {holds' : β → κ → Prop} (h : first.Passes judge state holds)
    (hnext : ∀ value after, holds value after → (second value).Passes judge after holds') :
    (first >>= second).Passes judge state holds' :=
  (passes_bind first second).mpr (h.mono hnext)

theorem Passes.map {program : Program α} (f : α → β) {holds : β → κ → Prop}
    (h : program.Passes judge state fun value => holds (f value)) :
    (f <$> program).Passes judge state holds := by
  rw [map_eq_pure_bind]
  exact h.bind fun _ _ hvalue => hvalue

theorem Passes.discard {program : Program α} {holds : κ → Prop}
    (h : program.Passes judge state fun _ => holds) :
    (discard program).Passes judge state fun _ => holds :=
  h.map _

/-- A program whose error is taken as a result passes if all is well afterwards anyway. -/
theorem Passes.attempt {program : Program α} {holds : α → κ → Prop}
    {holds' : Except Error α → κ → Prop} (h : program.Passes judge state holds)
    (hany : ∀ result after, holds' result after) : program.attempt.Passes judge state holds' := by
  induction program generalizing state with
  | done result => exact hany result state
  | call request next ih => exact judge.call_mono h fun answer after hnext => ih answer hnext
  | publish event next ih => exact judge.tell_mono h fun after hnext => ih hnext

/-! ## Loops -/

/-- What each step of a loop keeps is there at the end of the loop. -/
theorem passes_foldlM {step : β → α → Program β} {keeps : β → κ → Prop} {list : List α}
    (hstep : ∀ element ∈ list, ∀ value state, keeps value state →
      (step value element).Passes judge state keeps)
    {value : β} (h : keeps value state) :
    (list.foldlM step value).Passes judge state keeps := by
  induction list generalizing value state with
  | nil => exact h
  | cons element rest ih =>
    obtain ⟨hfirst, hrest⟩ := List.forall_mem_cons.mp hstep
    rw [List.foldlM_cons]
    exact (hfirst value state h).bind fun _ _ hnext => ih hrest hnext

theorem passes_forM {step : α → Program PUnit} {keeps : κ → Prop} {list : List α}
    (hstep : ∀ element ∈ list, ∀ state, keeps state →
      (step element).Passes judge state fun _ => keeps)
    (h : keeps state) : (list.forM step).Passes judge state fun _ => keeps := by
  induction list generalizing state with
  | nil => exact h
  | cons element rest ih =>
    obtain ⟨hfirst, hrest⟩ := List.forall_mem_cons.mp hstep
    exact (hfirst state h).bind fun _ _ hnext => ih hrest hnext

/-- What is kept may speak of the results so far. -/
theorem passes_mapM {step : α → Program β} (keeps : List β → κ → Prop) {list : List α}
    (hstep : ∀ element ∈ list, ∀ done state, keeps done state →
      (step element).Passes judge state fun value => keeps (done ++ [value]))
    (done : List β) (h : keeps done state) :
    (list.mapM step).Passes judge state fun values => keeps (done ++ values) := by
  induction list generalizing done state with
  | nil =>
    rw [List.mapM_nil, passes_pure, List.append_nil]
    exact h
  | cons element rest ih =>
    obtain ⟨hfirst, hrest⟩ := List.forall_mem_cons.mp hstep
    rw [List.mapM_cons]
    refine (hfirst done state h).bind fun value after hvalue => ?_
    refine (ih hrest _ hvalue).bind fun values final hvalues => ?_
    rw [passes_pure, ← List.singleton_append, ← List.append_assoc]
    exact hvalues

end Program

end ConfigFanout
