import ConfigFanout.Artifact
import ConfigFanout.Error

-- Work on sources as programs: trees of calls to the store, with a branch for every answer
-- that may come back, and of events to publish. A program does nothing by itself; a
-- `Store` answers its calls, and different stores may run one program.
namespace ConfigFanout

/-- A call to the store. -/
inductive StoreCall where
  | getSource (key : ObjectKey)
  /-- Puts a source in place of the stored one, which has to be of the same version. -/
  | updateSource (source : ClusterConfig)
  /-- Puts the status of a source in place of the stored one. -/
  | updateStatus (source : ClusterConfig)
  /-- The names of all namespaces, in any order. -/
  | listNamespaces
  | getArtifact (kind : ArtifactKind) (key : ObjectKey)
  | createArtifact (kind : ArtifactKind) (artifact : Artifact kind)
  | replaceArtifact (kind : ArtifactKind) (artifact : Artifact kind)
  | deleteArtifact (kind : ArtifactKind) (key : ObjectKey)

namespace StoreCall

/-- What a call gives if it succeeds. Calls that write give what is stored then. -/
abbrev Answer : StoreCall → Type
  | .getSource _ | .updateSource _ | .updateStatus _ => ClusterConfig
  | .listNamespaces => List String
  | .getArtifact kind _ | .createArtifact kind _ | .replaceArtifact kind _ => Artifact kind
  | .deleteArtifact .. => Unit

/-- The object that a call is about. -/
def subject? : StoreCall → Option (ResourceKind × ObjectKey)
  | .getSource key => some (.clusterConfig, key)
  | .updateSource source | .updateStatus source => some (.clusterConfig, source.metadata.key)
  | .listNamespaces => none
  | .getArtifact kind key | .deleteArtifact kind key => some (kind.resource, key)
  | .createArtifact kind artifact | .replaceArtifact kind artifact =>
    some (kind.resource, artifact.metadata.key)

/-- The error that a fault of the call is. -/
def error (call : StoreCall) (fault : StoreFault) : Error :=
  match call.subject? with
  | some (kind, key) => .ofFault fault kind key
  | none => .store fault

end StoreCall

/-- Whether an event is good news. -/
inductive Severity where
  | normal
  | warning
  deriving DecidableEq, Repr, Inhabited

/-- Something to tell those who look at a source. -/
structure Event where
  source : ClusterConfig
  severity : Severity
  reason : String
  note : String
  deriving DecidableEq, Inhabited

/-- A program with a result of type `α`, or an error. -/
inductive Program (α : Type) where
  | done (result : Except Error α)
  | call (request : StoreCall) (next : Except Error request.Answer → Program α)
  | publish (event : Event) (next : Program α)

namespace Program

variable {α β γ : Type}

/-- A second program after a first one that did not fail. -/
def bind (first : Program α) (second : α → Program β) : Program β :=
  match first with
  | .done (.ok value) => second value
  | .done (.error error) => .done (.error error)
  | .call request next => .call request fun answer => (next answer).bind second
  | .publish event next => .publish event (next.bind second)

instance : Monad Program where
  pure value := .done (.ok value)
  bind := bind

/-- The program that fails. -/
def fail (error : Error) : Program α :=
  .done (.error error)

/-- One call. The program fails if the call does. -/
def ask (request : StoreCall) : Program request.Answer :=
  .call request .done

/-- One event. -/
def tell (event : Event) : Program Unit :=
  .publish event (pure ())

/-- The program with its error as a result. It does not fail. -/
def attempt : Program α → Program (Except Error α)
  | .done result => .done (.ok result)
  | .call request next => .call request fun answer => (next answer).attempt
  | .publish event next => .publish event next.attempt

/-- Goes on, or fails, as a result says. -/
def ofExcept (result : Except Error α) : Program α :=
  .done result

theorem bind_pure' (first : Program α) : first >>= pure = first := by
  induction first with
  | done result => cases result <;> rfl
  | call request next ih => exact congrArg (call request) (funext ih)
  | publish event next ih => exact congrArg (publish event) ih

theorem bind_assoc' (first : Program α) (second : α → Program β) (third : β → Program γ) :
    first >>= second >>= third = first >>= fun value => second value >>= third := by
  induction first with
  | done result => cases result <;> rfl
  | call request next ih => exact congrArg (call request) (funext ih)
  | publish event next ih => exact congrArg (publish event) ih

instance : LawfulMonad Program :=
  LawfulMonad.mk' Program bind_pure' (fun _ _ => rfl) bind_assoc'

end Program

/-- Something that answers calls and takes note of events, with a state of its own. -/
structure Store (σ : Type) where
  answer : (request : StoreCall) → σ → Except Error request.Answer × σ
  record : Event → σ → σ

/-- The result of a program that a store runs, and the state it leaves. -/
def Program.run {σ α : Type} (store : Store σ) : Program α → σ → Except Error α × σ
  | .done result, state => (result, state)
  | .call request next, state =>
    let (answer, state) := store.answer request state
    (next answer).run store state
  | .publish event next, state => next.run store (store.record event state)

end ConfigFanout
