-- The kinds of object that a source can be copied into.
namespace ConfigFanout

/-- A kind of artifact. -/
inductive ArtifactKind where
  | configMap
  | secret
  deriving DecidableEq, Repr, Inhabited

/-- A kind of object that the store knows. -/
inductive ResourceKind where
  | clusterConfig
  | configMap
  | secret
  | «namespace»
  deriving DecidableEq, Repr, Inhabited

namespace ResourceKind

def name : ResourceKind → String
  | .clusterConfig => "ClusterConfig"
  | .configMap => "ConfigMap"
  | .secret => "Secret"
  | .namespace => "Namespace"

end ResourceKind

namespace ArtifactKind

/-- The kind among all the kinds of object. -/
def resource : ArtifactKind → ResourceKind
  | .configMap => .configMap
  | .secret => .secret

def name (kind : ArtifactKind) : String :=
  kind.resource.name

/-- The word by which a source asks for the kind. -/
def word : ArtifactKind → String
  | .configMap => "configmaps"
  | .secret => "secrets"

/-- The kinds, in the order in which messages list their words. -/
def every : List ArtifactKind := [.configMap, .secret]

/-- The kind that a word asks for. -/
def ofWord? (word : String) : Option ArtifactKind :=
  every.find? (·.word = word)

@[simp] theorem ofWord?_word (kind : ArtifactKind) : ofWord? kind.word = some kind := by
  cases kind <;> decide

end ArtifactKind

end ConfigFanout
