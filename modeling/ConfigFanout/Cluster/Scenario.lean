import ConfigFanout.Cluster.Simulation
import ConfigFanout.Reconcile

-- Steps that drive a simulation: rounds of work and parts of them, and changes that others
-- make. Each step has an outcome of its own.
namespace ConfigFanout

/-- The source that a step works on. -/
inductive SourceChoice where
  /-- The one stored under a key. -/
  | stored (key : ObjectKey)
  /-- One that comes with the step. -/
  | given (object : Json)

/-- A part of a round of work. -/
inductive Part where
  | addToken (token : String)
  | dropToken (token : String)
  | synchronize (kind : ArtifactKind) (ns : String)
  | withdraw (kind : ArtifactKind) (ns : String)

inductive Step where
  | reconcile (key : ObjectKey)
  | resolve (raw : String)
  | part (part : Part) (source : SourceChoice)
  | change (change : Change)

/-- What a step came to. -/
inductive StepOutcome where
  | acted (action : Action)
  | resolved (target : TargetSet)
  | synced (outcome : Synced)
  | withdrawn (outcome : Removal)
  /-- A change of tokens, and the source as the one who asked for it has it then. -/
  | tokens (result : Except Error Unit) (source : ClusterConfig)
  | failed (error : Error)
  /-- A round that failed, with what follows if the source was there. -/
  | roundFailed (error : Error) (next : Option Action)
  | changed
  | noSource
  | unreadable (fault : ReadFault)
  | badStep (fault : ChangeFault)

namespace Simulation

/-- The outcome of a program and the simulation after it. -/
def runWith {α : Type} (simulation : Simulation) (program : Program α)
    (outcome : Except Error α → StepOutcome) : StepOutcome × Simulation :=
  let (result, simulation) := program.run store simulation
  (outcome result, simulation)

/-- An outcome that is either a value or an error. -/
def either {α : Type} (outcome : α → StepOutcome) : Except Error α → StepOutcome
  | .ok value => outcome value
  | .error error => .failed error

/-- The outcome of a change of tokens. A failure leaves the source as it was. -/
def tokensOutcome (source : ClusterConfig) : Except Error ClusterConfig → StepOutcome
  | .ok stored => .tokens (.ok ()) stored
  | .error error => .tokens (.error error) source

def doPart (simulation : Simulation) (source : ClusterConfig) :
    Part → StepOutcome × Simulation
  | .addToken token => simulation.runWith (source.addToken token) (tokensOutcome source)
  | .dropToken token => simulation.runWith (source.dropToken token) (tokensOutcome source)
  | .synchronize kind ns => simulation.runWith (source.synchronize kind ns) (either .synced)
  | .withdraw kind ns => simulation.runWith (source.withdraw kind ns) (either .withdrawn)

def step (settings : Settings) (simulation : Simulation) : Step → StepOutcome × Simulation
  | .reconcile key =>
    let next := if simulation.cluster.sources.contains key then some settings.afterFailure
      else none
    simulation.runWith (ConfigFanout.reconcile key) fun
      | .ok action => .acted action
      | .error error => .roundFailed error next
  | .resolve raw => simulation.runWith (ConfigFanout.resolve raw) (either .resolved)
  | .part part (.stored key) =>
    match simulation.cluster.sources[key]? with
    | some source => simulation.doPart source part
    | none => (.noSource, simulation)
  | .part part (.given object) =>
    match ClusterConfig.read object with
    | .ok source => simulation.doPart source part
    | .error fault => (.unreadable fault, simulation)
  | .change change =>
    match simulation.change change with
    | .ok simulation => (.changed, simulation)
    | .error fault => (.badStep fault, simulation)

end Simulation

end ConfigFanout
