import ConfigFanout.ClusterConfig.Wire
import ConfigFanout.Artifact.Wire
import ConfigFanout.Cluster.Basic
import ConfigFanout.Json.MergePatch

-- A cluster with a memory of what was asked of it, and with rules that let calls fail or
-- let others change the cluster just before a call acts.
namespace ConfigFanout

namespace StoreCall

/-- The call as the journal names it. -/
def label : StoreCall → String
  | .getSource key => "get_source " ++ key.path
  | .updateSource source => "update_source " ++ source.metadata.key.path
  | .updateStatus source => "update_status " ++ source.metadata.key.path
  | .listNamespaces => "list_namespaces"
  | .getArtifact kind key => s!"get {kind.name} " ++ key.path
  | .createArtifact kind artifact => s!"create {kind.name} " ++ artifact.metadata.key.path
  | .replaceArtifact kind artifact => s!"replace {kind.name} " ++ artifact.metadata.key.path
  | .deleteArtifact kind key => s!"delete {kind.name} " ++ key.path

end StoreCall

/-- A rule about calls. It fires for the calls that it matches, after it has let some of
them pass, and a number of times at most. -/
structure Rule (change : Type) where
  /-- The label of the calls, or the start of it with a star after it. -/
  on : String
  /-- How many matching calls to let pass. -/
  skip : Nat := 0
  /-- How often the rule may still fire. Without a number there is no limit. -/
  times : Option Nat := none
  /-- How the call fails, if it is to fail. -/
  refusal : Option Refusal := none
  /-- What others change before the call acts. -/
  changes : List change := []

/-- Something that others do to the cluster. -/
inductive Change where
  | putSource (object : Json)
  | putArtifact (kind : ArtifactKind) (object : Json)
  /-- A merge patch for a stored source. -/
  | editSource (key : ObjectKey) (patch : Json)
  /-- Asks for the end of a stored source. -/
  | markDeleting (key : ObjectKey)
  | removeSource (key : ObjectKey)
  | removeArtifact (kind : ArtifactKind) (key : ObjectKey)
  | setNamespaces (namespaces : List String)
  | addRule (rule : Rule Change)
  | clearRules
  /-- Nothing that anyone could do. -/
  | unknown (word : String)
  deriving Inhabited

/-- Why a change could not be made. -/
inductive ChangeFault where
  | noSuchSource
  | unreadable (fault : ReadFault)
  | unknown (word : String)

def ChangeFault.message : ChangeFault → String
  | .noSuchSource => "no such source"
  | .unreadable fault => fault.message
  | .unknown word => "unknown step " ++ Text.quote word

namespace Rule

variable {change : Type}

/-- Whether a rule is about a call with that label. -/
def covers (rule : Rule change) (label : String) : Bool :=
  match rule.on.toList.reverse with
  | '*' :: start => start.reverse.isPrefixOf label.toList
  | _ => rule.on = label

/-- Whether the rule fires for a call with that label, and the rule after it. -/
def consider (rule : Rule change) (label : String) : Bool × Rule change :=
  if !rule.covers label then (false, rule)
  else if 0 < rule.skip then (false, { rule with skip := rule.skip - 1 })
  else
    match rule.times with
    | none => (true, rule)
    | some 0 => (false, rule)
    | some (n + 1) => (true, { rule with times := some n })

end Rule

/-- A cluster under observation. -/
structure Simulation where
  cluster : Cluster := {}
  rules : List (Rule Change) := []
  /-- The calls so far, the first one first. -/
  calls : List StoreCall := []
  /-- The events so far, the first one first. -/
  events : List Event := []

namespace Simulation

/-- A value that was read, or the fault as one of a change. -/
def readable {α : Type} : Except ReadFault α → Except ChangeFault α
  | .ok value => .ok value
  | .error fault => .error (.unreadable fault)

/-- When sources that are to end were asked to. -/
def endOfSources : Timestamp :=
  { date := { year := 2024, month := 1, day := 1 }, hour := 0, minute := 0, second := 0 }

/-- The simulation after a merge patch for a stored source. -/
def editSource (simulation : Simulation) (key : ObjectKey) (patch : Json) :
    Except ChangeFault Simulation := do
  match simulation.cluster.sources[key]? with
  | none => throw .noSuchSource
  | some stored =>
    let edited ← readable (ClusterConfig.read (Json.mergePatch patch stored.write))
    return { simulation with cluster := simulation.cluster.putSource key edited }

/-- The simulation after a change. -/
def change (simulation : Simulation) : Change → Except ChangeFault Simulation
  | .putSource object => do
    let source ← readable (ClusterConfig.read object)
    return { simulation with
      cluster := simulation.cluster.putSource source.metadata.key source }
  | .putArtifact kind object => do
    let artifact ← readable (Artifact.read kind object)
    return { simulation with cluster := simulation.cluster.putArtifact artifact }
  | .editSource key patch => simulation.editSource key patch
  | .markDeleting key =>
    let time := Json.object [("deletionTimestamp", .string endOfSources.render)]
    simulation.editSource key (.object [("metadata", time)])
  | .removeSource key =>
    return { simulation with cluster := simulation.cluster.removeSource key }
  | .removeArtifact kind key =>
    return { simulation with cluster := simulation.cluster.removeArtifact kind key }
  | .setNamespaces namespaces =>
    return { simulation with cluster := { simulation.cluster with namespaces } }
  | .addRule rule => return { simulation with rules := simulation.rules ++ [rule] }
  | .clearRules => return { simulation with rules := [] }
  | .unknown word => throw (.unknown word)

/-- The simulation after some changes. One that cannot be made is passed over. -/
def changeAll (simulation : Simulation) (changes : List Change) : Simulation :=
  changes.foldl (fun simulation change =>
    match simulation.change change with
    | .ok simulation => simulation
    | .error _ => simulation) simulation

/-- The answer to a call. Every rule is looked at first, then the rules that fire change
the cluster, and the first of them that says how the call fails has its way. -/
def answer (request : StoreCall) (simulation : Simulation) :
    Except Error request.Answer × Simulation :=
  let considered := simulation.rules.map fun rule => rule.consider request.label
  let fired := (considered.filter (·.1)).map (·.2)
  let simulation : Simulation := { simulation with
    calls := simulation.calls ++ [request]
    rules := considered.map (·.2) }
  let simulation := simulation.changeAll (fired.flatMap (·.changes))
  match fired.findSome? (·.refusal) with
  | some refusal => (.error (request.error (.refused refusal)), simulation)
  | none =>
    let (answer, cluster) := simulation.cluster.answer request
    (answer, { simulation with cluster })

/-- The simulation as a store. -/
def store : Store Simulation where
  answer := answer
  record event simulation := { simulation with events := simulation.events ++ [event] }

end Simulation

end ConfigFanout
