import ConfigFanout.Proofs.Traces
import ConfigFanout.Proofs.Walks

-- What a program does whatever its calls are answered. Someone who sees the calls and the
-- answers, and nothing of the store, can tell at each moment which calls may come next. Such
-- a rule holds in all surroundings, also where others write between two calls.
namespace ConfigFanout

/-- Someone who watches the calls of a program. -/
structure Monitor (κ : Type) where
  /-- The calls that may come, by what is known. -/
  allows : κ → StoreCall → Prop
  /-- What is known once a call is answered. -/
  learns : κ → (request : StoreCall) → Except Error request.Answer → κ

/-- Two who watch together. -/
def Monitor.both {κ κ' : Type} (monitor : Monitor κ) (other : Monitor κ') : Monitor (κ × κ') where
  allows known request := monitor.allows known.1 request ∧ other.allows known.2 request
  learns known request answer :=
    (monitor.learns known.1 request answer, other.learns known.2 request answer)

namespace Monitor

variable {κ : Type} {monitor : Monitor κ} {known : κ} {request : StoreCall}

/-- Asks of every call that it is allowed, whatever was answered before. How a program ends does
not matter. -/
def judge (monitor : Monitor κ) : Judge κ where
  call request known holds :=
    monitor.allows known request ∧ ∀ answer, holds answer (monitor.learns known request answer)
  tell _ known holds := holds known
  fail _ _ := True
  call_mono h himp := ⟨h.1, fun answer => himp answer _ (h.2 answer)⟩
  tell_mono h himp := himp _ h

theorem call_returns {holds : request.Answer → κ → Prop} (allowed : monitor.allows known request)
    (h : ∀ value, holds value (monitor.learns known request (.ok value))) :
    monitor.judge.call request known (monitor.judge.returns holds) := by
  refine ⟨allowed, ?_⟩
  rintro (error | value)
  · trivial
  · exact h value

theorem call_finds {missing : κ → Prop} {holds : request.Answer → κ → Prop}
    (allowed : monitor.allows known request)
    (hmissing : ∀ error, missing (monitor.learns known request (.error error)))
    (h : ∀ value, holds value (monitor.learns known request (.ok value))) :
    monitor.judge.call request known (monitor.judge.finds missing holds) := by
  refine ⟨allowed, ?_⟩
  rintro (error | value)
  · exact Judge.finds_error (hmissing error) trivial
  · exact h value

end Monitor

namespace Program

variable {κ α : Type} {monitor : Monitor κ} {known : κ}

/-- Every call of a program is allowed when it is made, whatever was answered before. -/
def Obeys (monitor : Monitor κ) (program : Program α) (known : κ) : Prop :=
  program.Passes monitor.judge known fun _ _ => True

/-- Two may watch a program at a time. -/
theorem Obeys.both {κ' : Type} {other : Monitor κ'} {program : Program α} {known' : κ'}
    (h : program.Obeys monitor known) (h' : program.Obeys other known') :
    program.Obeys (monitor.both other) (known, known') := by
  induction program generalizing known known' with
  | done result => cases result <;> trivial
  | call request next ih => exact ⟨⟨h.1, h'.1⟩, fun answer => ih answer (h.2 answer) (h'.2 answer)⟩
  | publish event next ih => exact ih h h'

end Program

theorem Monitor.obeys_reconcile {κ : Type} {monitor : Monitor κ} {known : κ} {key : ObjectKey}
    (fetch : monitor.allows known (.getSource key))
    (hround : ∀ source : ClusterConfig,
      source.round.Obeys monitor (monitor.learns known (.getSource key) (.ok source))) :
    (reconcile key).Obeys monitor known := by
  unfold reconcile
  refine (Program.passes_bind _ _).mpr (Program.passes_try.mpr ⟨fetch, ?_⟩)
  rintro (error | source)
  · dsimp only
    split <;> trivial
  · refine ((hround source).attempt fun _ _ => trivial).bind fun report after _ => ?_
    rcases report with error | report
    · trivial
    · dsimp only
      split <;> trivial

/-- Each element of a list that comes after a past is as `allowed` says of all elements before
it, and of it. -/
def Each {α : Type} (allowed : List α → α → Prop) (past list : List α) : Prop :=
  ∀ before element later, list = before ++ element :: later → allowed (past ++ before) element

section

variable {α : Type} {allowed : List α → α → Prop} {past list : List α} {element : α}

theorem Each.cons (helement : allowed past element)
    (hrest : Each allowed (past ++ [element]) list) : Each allowed past (element :: list) := by
  intro before next later heq
  cases before with
  | nil =>
    cases heq
    rwa [List.append_nil]
  | cons other before =>
    obtain ⟨rfl, hrest_eq⟩ := List.cons.inj heq
    have hnext := hrest before next later hrest_eq
    rwa [List.append_assoc] at hnext

theorem Each.concat (hlist : Each allowed past list) (helement : allowed (past ++ list) element) :
    Each allowed past (list ++ [element]) := by
  intro before next later heq
  rcases List.eq_nil_or_concat later with rfl | ⟨rest, last, rfl⟩
  · obtain ⟨rfl, hlast⟩ := List.append_inj' heq rfl
    cases hlast
    exact helement
  · rw [List.concat_eq_append, ← List.cons_append, ← List.append_assoc] at heq
    obtain ⟨hlist_eq, -⟩ := List.append_inj' heq rfl
    exact hlist before next rest hlist_eq

end

/-- In some surroundings, what is known fits what was done and the state, all along, and each
act is as `allowed` says of the acts before it, and of the act. -/
structure Monitor.Fits {κ σ : Type} (monitor : Monitor κ) (around : Surroundings σ)
    (fits : List (Act σ) → κ → σ → Prop) (allowed : List (Act σ) → Act σ → Prop) : Prop where
  asked : ∀ {past known state request answer after}, fits past known state →
    monitor.allows known request → around.answers request state answer after →
    allowed past (.asked state request answer) ∧
      fits (past ++ [.asked state request answer]) (monitor.learns known request answer) after
  told : ∀ {past known state} event, fits past known state →
    allowed past (.told event) ∧ fits (past ++ [.told event]) known (around.records event state)

namespace Program.Obeys

variable {κ σ α : Type} {monitor : Monitor κ} {around : Surroundings σ}
  {fits : List (Act σ) → κ → σ → Prop} {allowed : List (Act σ) → Act σ → Prop}
  {program : Program α} {known : κ} {state : σ}

/-- What is known fits all along, and in the end, and each act is as allowed then. -/
theorem ends (h : program.Obeys monitor known)
    (hfits : monitor.Fits around fits allowed) {past : List (Act σ)}
    (start : fits past known state) :
    program.Traces around state fun acts _ after =>
      Each allowed past acts ∧ ∃ known, fits (past ++ acts) known after := by
  induction program generalizing known state past with
  | done result =>
    refine ⟨fun before act later heq => by simp at heq, known, ?_⟩
    rwa [List.append_nil]
  | call request next ih =>
    intro answer after ha
    obtain ⟨hact, hnext⟩ := hfits.asked start h.1 ha
    refine Traces.mono (ih answer (h.2 answer) hnext) ?_
    rintro acts _ later ⟨hrest, learnt, hlearnt⟩
    rw [List.append_assoc] at hlearnt
    exact ⟨Each.cons hact hrest, learnt, hlearnt⟩
  | publish event next ih =>
    obtain ⟨hact, hnext⟩ := hfits.told event start
    show next.Traces around (around.records event state) _
    refine Traces.mono (ih h hnext) ?_
    rintro acts _ later ⟨hrest, learnt, hlearnt⟩
    rw [List.append_assoc] at hlearnt
    exact ⟨Each.cons hact hrest, learnt, hlearnt⟩

theorem each (h : program.Obeys monitor known)
    (hfits : monitor.Fits around fits allowed) {past : List (Act σ)}
    (start : fits past known state) :
    program.Traces around state fun acts _ _ => Each allowed past acts :=
  Traces.mono (h.ends hfits start) fun _ _ _ hends => hends.1

/-- What follows from the rules of someone who watches holds of each act of a run, in view of
the acts before it. -/
theorem traces (h : program.Obeys monitor known)
    (hfits : monitor.Fits around fits allowed) (start : fits [] known state) :
    program.Traces around state fun acts _ _ =>
      ∀ before act later, acts = before ++ act :: later → allowed before act :=
  h.each hfits start

end Program.Obeys

end ConfigFanout
