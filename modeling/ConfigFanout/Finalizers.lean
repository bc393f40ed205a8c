import ConfigFanout.Program

-- Finalizers as tokens: a source holds the token of every namespace that may hold a copy
-- of it, or one token for all namespaces. Each change is stored on its own.
namespace ConfigFanout

/-- The token for all namespaces. -/
def everyToken : String := NamespaceList.everyNamespace

/-- Finalizers that the cluster itself may put on any object. -/
def builtInFinalizers : List String :=
  ["foregroundDeletion", "orphan", "kubernetes"]

/-- Whether a finalizer can only have come from others: names with a slash belong to the
controller with that domain. -/
def isForeignFinalizer (finalizer : String) : Bool :=
  finalizer.toList.contains '/' || builtInFinalizers.contains finalizer

/-- The tokens that guard the namespaces of a target. -/
def TargetSet.tokens (target : TargetSet) : List String :=
  if target.all then [everyToken] else target.namespaces

namespace ClusterConfig

def holds (source : ClusterConfig) (token : String) : Bool :=
  source.metadata.held.contains token

/-- The tokens that the source does not hold, each once. -/
def missingTokens (source : ClusterConfig) (tokens : List String) : List String :=
  (tokens.filter fun token => !source.holds token).eraseDups

/-- The tokens of single namespaces that the source holds. -/
def namespaceTokens (source : ClusterConfig) : List String :=
  source.metadata.held.filter fun token => token ≠ everyToken && !isForeignFinalizer token

/-- The source with other finalizers. -/
def withFinalizers (source : ClusterConfig) (finalizers : List String) : ClusterConfig :=
  { source with metadata := { source.metadata with finalizers := some finalizers } }

/-- Adds a token unless the source holds it. The result is the source as it is stored then. -/
def addToken (source : ClusterConfig) (token : String) : Program ClusterConfig :=
  if source.holds token then pure source
  else .ask (.updateSource (source.withFinalizers (source.metadata.held ++ [token])))

/-- Drops a token, every time that it is there. The result is the source as it is stored
then. -/
def dropToken (source : ClusterConfig) (token : String) : Program ClusterConfig :=
  if source.holds token then
    .ask (.updateSource (source.withFinalizers (source.metadata.held.filter (· ≠ token))))
  else pure source

end ClusterConfig

end ConfigFanout
