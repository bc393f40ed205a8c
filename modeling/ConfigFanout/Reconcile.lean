import ConfigFanout.Artifact.Sync
import ConfigFanout.Finalizers

-- One round of work on a source. While it stays, it is applied: copies where it no longer
-- goes are taken away, tokens are put up for where it goes, copies there are brought up to
-- date, and the status says so. When it is on its way out, everything is taken away and its
-- tokens with it.
namespace ConfigFanout

/-- When to look at a source again. -/
inductive Action where
  /-- When something changes. -/
  | awaitChange
  /-- After some milliseconds. -/
  | requeue (milliseconds : Nat)
  deriving DecidableEq, Repr, Inhabited

/-- What the controller is told when it starts. -/
structure Settings where
  /-- How long to wait after a failure. -/
  requeueMs : Nat := 60000
  /-- The name of the controller in events. -/
  reporter : String := "cluster-config-controller"
  deriving DecidableEq, Repr, Inhabited

/-- When to look at a source again after a failure, whichever it was. -/
def Settings.afterFailure (settings : Settings) : Action :=
  .requeue settings.requeueMs

/-- The namespaces where a round wrote, by what it did there. -/
structure Report where
  created : List String := []
  updated : List String := []
  pruned : List String := []
  deriving DecidableEq, Repr, Inhabited

namespace Report

/-- Whether nothing was written. -/
def isEmpty (report : Report) : Bool :=
  report.created.isEmpty && report.updated.isEmpty && report.pruned.isEmpty

/-- The report in words. -/
def note (report : Report) : String :=
  "created in " ++ Text.quoteList report.created ++ ", updated in " ++
    Text.quoteList report.updated ++ ", pruned from " ++ Text.quoteList report.pruned

end Report

/-- The namespaces that a list stands for. The store is asked only for the word that stands
for all of them. -/
def resolve (raw : String) : Program TargetSet := do
  let names := NamespaceList.parse raw
  if NamespaceList.isEvery names then
    let live ← Program.ask .listNamespaces
    return { namespaces := sortTexts live, all := true }
  else return { namespaces := names, all := false }

/-- How far taking away the copies of a source got. -/
structure Pruned where
  /-- The source as it is stored. -/
  source : ClusterConfig
  /-- The namespaces where a copy was deleted. -/
  namespaces : List String
  /-- Whether none of the namespaces was without a copy. -/
  complete : Bool

namespace ClusterConfig

/-- Takes the copies away from some namespaces, and the token of each with it. It stops
after the first namespace that has no copy. -/
def pruneFrom (source : ClusterConfig) : List String → Program Pruned
  | [] => return ⟨source, [], true⟩
  | ns :: rest => do
    let removal ← source.withdraw source.spec.kind ns
    let source ← source.dropToken ns
    match removal with
    | .alreadyAbsent => return ⟨source, [], false⟩
    | .notOwned => source.pruneFrom rest
    | .deleted =>
      let pruned ← source.pruneFrom rest
      return { pruned with namespaces := ns :: pruned.namespaces }

/-- Stores which namespaces hold a copy, unless the status says that already. -/
def recordProcessed (source : ClusterConfig) (namespaces : List String) :
    Program ClusterConfig :=
  if source.status = some ⟨namespaces⟩ then pure source
  else .ask (.updateStatus { source with status := some ⟨namespaces⟩ })

/-- Takes the copies away from the namespaces that were targets before and are none now,
and gives the token for all namespaces back if that is all that it was held for. The token
of a namespace whose name is that same word stays. A source without a record of targets
has nothing to take away. The result is the stored source, and where copies were deleted. -/
def retire (source : ClusterConfig) (target : TargetSet) :
    Program (ClusterConfig × List String) := do
  if source.processed.isEmpty then return (source, [])
  else
    let pruned ← source.pruneFrom (NamespaceList.stale target.namespaces source.processed)
    let release := !target.all && pruned.complete && !target.namespaces.contains everyToken
    let source ← if release then pruned.source.dropToken everyToken else pure pruned.source
    let source ← source.recordProcessed target.namespaces
    return (source, pruned.namespaces)

/-- Brings the copies in some namespaces up to date. -/
def copyTo (source : ClusterConfig) (namespaces : List String) :
    Program (List (String × Synced)) :=
  namespaces.mapM fun ns => do return (ns, ← source.synchronize source.spec.kind ns)

/-- Drops some tokens, one after the other. -/
def dropTokens (source : ClusterConfig) (tokens : List String) : Program ClusterConfig :=
  tokens.foldlM dropToken source

/-- A round for a source that stays. -/
def apply (source : ClusterConfig) : Program Report := do
  let target ← resolve source.spec.namespaceList
  let (source, pruned) ← source.retire target
  let source ← (source.missingTokens target.tokens).foldlM addToken source
  let outcomes ← source.copyTo target.namespaces
  let source ← if target.all then source.dropTokens source.namespaceTokens else pure source
  discard (source.recordProcessed target.namespaces)
  let inWhich (outcome : Synced) := (outcomes.filter (·.2 = outcome)).map (·.1)
  return { created := inWhich .created, updated := inWhich .updated, pruned }

/-- Takes the copies away from the given namespaces, then drops the token for all of them,
and the tokens of single namespaces, which guard nothing any more. -/
def sweep (source : ClusterConfig) (live : List String) : Program Unit := do
  live.forM fun ns => discard (source.withdraw source.spec.kind ns)
  let source ← source.dropToken everyToken
  discard (source.dropTokens source.namespaceTokens)

/-- Takes the copies away from some namespaces, and the token of each with it. -/
def clear (source : ClusterConfig) (namespaces : List String) : Program ClusterConfig :=
  let step (source : ClusterConfig) (ns : String) : Program ClusterConfig := do
    discard (source.withdraw source.spec.kind ns)
    source.dropToken ns
  namespaces.foldlM step source

/-- A round for a source on its way out. The namespaces of its list come first, then those
whose tokens it holds; one that holds the token for all of them is swept from all. -/
def cleanup (source : ClusterConfig) : Program Unit := do
  let target ← resolve source.spec.namespaceList
  if target.all then source.sweep target.namespaces
  else
    let others := NamespaceList.stale target.namespaces source.namespaceTokens
    let source ← source.clear (target.namespaces ++ others)
    if source.holds everyToken then
      let live ← Program.ask .listNamespaces
      source.sweep live
    else return

/-- A round for a source, with a report if it stays. -/
def round (source : ClusterConfig) : Program (Option Report) := do
  if source.isDeleting then
    source.cleanup
    return none
  else return some (← source.apply)

end ClusterConfig

/-- One round for the source that is stored under a key. One that is gone needs nothing.
What was written is told in an event, and so is a failure. -/
def reconcile (key : ObjectKey) : Program Action := do
  match ← (Program.ask (.getSource key)).attempt with
  | .error error => if error.isNotFound then return .awaitChange else Program.fail error
  | .ok source =>
    match ← source.round.attempt with
    | .ok report =>
      match report.filter (!·.isEmpty) with
      | some report => Program.tell ⟨source, .normal, "Synced", report.note⟩
      | none => pure ()
      return .awaitChange
    | .error error =>
      Program.tell ⟨source, .warning, "ReconcileFailed", error.message⟩
      Program.fail error

/-- One round for the source that a notice names. It has to have a namespace. -/
def reconcileNoticed (source : ClusterConfig) : Program Action :=
  match source.metadata.ns with
  | some ns => reconcile ⟨ns, source.metadata.anyName⟩
  | none => Program.fail (.missingMetadata "namespace")

end ConfigFanout
