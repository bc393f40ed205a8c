import Mathlib.Logic.Function.Basic
import ConfigFanout.Proofs.LostUpdates

-- Two rounds at work on one cluster. They take turns in any order, and a turn is one call or
-- one event. Each of them knows what its own calls were answered, and that goes on to fit the
-- cluster, as far as it can, whatever the other one does.
namespace ConfigFanout

/-- One of two. -/
inductive Side where
  | left
  | right
  deriving DecidableEq, Repr

def Side.other : Side → Side
  | .left => .right
  | .right => .left

theorem Side.other_ne (side : Side) : side.other ≠ side := by
  cases side <;> decide

theorem Side.other_other (side : Side) : side.other.other = side := by
  cases side <;> rfl

theorem Side.eq_or_eq_other (side who : Side) : side = who ∨ side = who.other := by
  cases side <;> cases who <;> decide

/-- Two programs at work on one cluster. -/
structure Tandem (α : Type) where
  /-- What each of them has yet to do. -/
  programs : Side → Program α
  cluster : Cluster
  /-- What was done so far and by whom, the first thing first. -/
  acts : List (Side × Act Cluster) := []

/-- The answer to a call, and the cluster after it. A call that is refused changes nothing. -/
def Cluster.respond (cluster : Cluster) (refusal : Option Refusal) (request : StoreCall) :
    Except Error request.Answer × Cluster :=
  match refusal with
  | some refusal => (.error (request.error (.refused refusal)), cluster)
  | none => cluster.answer request

namespace Tandem

variable {α : Type}

/-- One of the two has done something, and goes on with a program. -/
def advance (tandem : Tandem α) (side : Side) (act : Act Cluster) (next : Program α)
    (cluster : Cluster) : Tandem α where
  programs := Function.update tandem.programs side next
  cluster := cluster
  acts := tandem.acts ++ [(side, act)]

section

variable (tandem : Tandem α) (side : Side) (act : Act Cluster) (next : Program α)
  (cluster : Cluster)

@[simp] theorem programs_advance_self :
    (tandem.advance side act next cluster).programs side = next :=
  Function.update_self ..

@[simp] theorem programs_advance_of_ne {who : Side} (h : who ≠ side) :
    (tandem.advance side act next cluster).programs who = tandem.programs who :=
  Function.update_of_ne h ..

end

/-- One of the two does the next thing. It makes a call, which may be refused, or publishes an
event, or is done. -/
def turn (tandem : Tandem α) (side : Side) (refusal : Option Refusal) : Tandem α :=
  match tandem.programs side with
  | .done _ => tandem
  | .call request next =>
    let (answer, after) := tandem.cluster.respond refusal request
    tandem.advance side (.asked tandem.cluster request answer) (next answer) after
  | .publish event next => tandem.advance side (.told event) next tandem.cluster

/-- The two take turns, in some order, and some calls are refused. -/
def turns (tandem : Tandem α) (schedule : List (Side × Option Refusal)) : Tandem α :=
  schedule.foldl (fun tandem entry => tandem.turn entry.1 entry.2) tandem

/-- What becomes of a tandem in a turn. -/
inductive Turned (tandem : Tandem α) (side : Side) : Tandem α → Prop
  | idle : Turned tandem side tandem
  | published {event : Event} {next : Program α} :
    tandem.programs side = .publish event next →
    Turned tandem side (tandem.advance side (.told event) next tandem.cluster)
  | failed {request : StoreCall} {next : Except Error request.Answer → Program α}
      {error : Error} : tandem.programs side = .call request next →
    Turned tandem side (tandem.advance side (.asked tandem.cluster request (.error error))
      (next (.error error)) tandem.cluster)
  | granted {request : StoreCall} {next : Except Error request.Answer → Program α}
      {value : request.Answer} {after : Cluster} : tandem.programs side = .call request next →
    tandem.cluster.Grants request value after →
    Turned tandem side (tandem.advance side (.asked tandem.cluster request (.ok value))
      (next (.ok value)) after)

theorem turned (tandem : Tandem α) (side : Side) (refusal : Option Refusal) :
    tandem.Turned side (tandem.turn side refusal) := by
  unfold turn
  cases hprogram : tandem.programs side with
  | done result => exact .idle
  | publish event next => exact .published hprogram
  | call request next =>
    dsimp only
    cases refusal with
    | some refusal => exact .failed hprogram
    | none =>
      rcases hanswer : tandem.cluster.respond none request with ⟨error | value, after⟩
      · obtain rfl := Cluster.eq_of_answer_eq_error hanswer
        exact .failed hprogram
      · exact .granted hprogram (Cluster.grants_of_answer hanswer)

/-- What holds from the start, and goes on to hold in each turn, holds in the end. -/
theorem turns_induction {holds : Tandem α → Prop} {tandem : Tandem α} (start : holds tandem)
    (step : ∀ {tandem next : Tandem α} {side : Side}, holds tandem → tandem.Turned side next →
      holds next) (schedule : List (Side × Option Refusal)) : holds (tandem.turns schedule) := by
  induction schedule generalizing tandem with
  | nil => exact start
  | cons entry rest ih => exact ih (step start (tandem.turned entry.1 entry.2))

/-- Two rounds, each for the source under a key of its own. -/
def rounds (keys : Side → ObjectKey) (cluster : Cluster) : Tandem Action where
  programs side := reconcile (keys side)
  cluster := cluster

/-- Each round obeys the rules for one, and what it knows fits the cluster. -/
structure Knows (tandem : Tandem Action) (keys : Side → ObjectKey) (known : Side → Knowledge) :
    Prop where
  obeys : ∀ side, (tandem.programs side).Obeys (.round (keys side)) (known side)
  sound : ∀ side, (known side).Sound (keys side) tandem.cluster

/-- What is known to each of two once one of them has learnt something. -/
def learn (known : Side → Knowledge) (side : Side) (request : StoreCall)
    (answer : Except Error request.Answer) : Side → Knowledge :=
  Function.update known side ((known side).learn request answer)

section

variable (known : Side → Knowledge) (side : Side) (request : StoreCall)
  (answer : Except Error request.Answer)

@[simp] theorem learn_self :
    learn known side request answer side = (known side).learn request answer :=
  Function.update_self ..

@[simp] theorem learn_of_ne {who : Side} (h : who ≠ side) :
    learn known side request answer who = known who :=
  Function.update_of_ne h ..

end

namespace Knows

variable {keys : Side → ObjectKey} {cluster after : Cluster} {tandem : Tandem Action}
  {known : Side → Knowledge} {side : Side}

theorem start (keyed : cluster.WellKeyed) (dated : cluster.Dated) :
    Knows (rounds keys cluster) keys fun _ => {} :=
  ⟨fun side => reconcile_obeys (keys side), fun _ => .start keyed dated⟩

theorem warranted (h : Knows tandem keys known) {request : StoreCall}
    {next : Except Error request.Answer → Program Action}
    (hprogram : tandem.programs side = .call request next) :
    Warranted (keys side) (known side) request := by
  have hobeys := h.obeys side
  rw [hprogram] at hobeys
  exact hobeys.1

theorem publish (h : Knows tandem keys known) {event : Event} {next : Program Action}
    (hprogram : tandem.programs side = .publish event next) :
    Knows (tandem.advance side (.told event) next tandem.cluster) keys known where
  obeys who := by
    by_cases hwho : who = side
    · subst hwho
      have hobeys := h.obeys who
      rw [hprogram] at hobeys
      rw [programs_advance_self]
      exact hobeys
    · rw [programs_advance_of_ne _ _ _ _ _ hwho]
      exact h.obeys who
  sound := h.sound

theorem call (h : Knows tandem keys known) {request : StoreCall}
    {next : Except Error request.Answer → Program Action} {answer : Except Error request.Answer}
    (hprogram : tandem.programs side = .call request next)
    (hside : ((known side).learn request answer).Sound (keys side) after)
    (hwritten : tandem.cluster.Written after) :
    Knows (tandem.advance side (.asked tandem.cluster request answer) (next answer) after) keys
      (learn known side request answer) where
  obeys who := by
    by_cases hwho : who = side
    · subst hwho
      have hobeys := h.obeys who
      rw [hprogram] at hobeys
      rw [programs_advance_self, learn_self]
      exact hobeys.2 answer
    · rw [programs_advance_of_ne _ _ _ _ _ hwho, learn_of_ne _ _ _ _ hwho]
      exact h.obeys who
  sound who := by
    by_cases hwho : who = side
    · subst hwho
      rw [learn_self]
      exact hside
    · rw [learn_of_ne _ _ _ _ hwho]
      exact (h.sound who).written hwritten

theorem fail (h : Knows tandem keys known) {request : StoreCall}
    {next : Except Error request.Answer → Program Action}
    (hprogram : tandem.programs side = .call request next) (error : Error) :
    Knows (tandem.advance side (.asked tandem.cluster request (.error error))
      (next (.error error)) tandem.cluster) keys (learn known side request (.error error)) :=
  h.call hprogram ((h.sound side).learn_error request error) .refl

theorem grant (h : Knows tandem keys known) {request : StoreCall}
    {next : Except Error request.Answer → Program Action} {value : request.Answer}
    (hprogram : tandem.programs side = .call request next)
    (grants : tandem.cluster.Grants request value after) :
    Knows (tandem.advance side (.asked tandem.cluster request (.ok value))
      (next (.ok value)) after) keys (learn known side request (.ok value)) :=
  h.call hprogram ((h.sound side).learn (h.warranted hprogram) grants)
    (grants.written (h.sound side).keyed)

end Knows

end Tandem

end ConfigFanout
