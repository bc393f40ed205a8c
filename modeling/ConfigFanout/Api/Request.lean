import ConfigFanout.Api.Address
import ConfigFanout.Artifact.Wire
import ConfigFanout.ClusterConfig.Wire
import ConfigFanout.Program

-- The requests by which calls to the store reach an API server.
namespace ConfigFanout.Api

/-- What a request does with what its address names. -/
inductive Method where
  | get
  | post
  | put
  | patch
  | delete
  deriving DecidableEq, Repr, Inhabited

namespace Method

def name : Method → String
  | .get => "GET"
  | .post => "POST"
  | .put => "PUT"
  | .patch => "PATCH"
  | .delete => "DELETE"

/-- What the body of a request is said to be. A GET has no body. -/
def contentType : Method → Option String
  | .get => none
  | .patch => some "application/merge-patch+json"
  | _ => some "application/json"

end Method

structure Request where
  method : Method
  address : String
  body : Option Json := none
  deriving Inhabited

namespace Request

/-- A request for an address, if the text is one. -/
def make (method : Method) (address : String) (body : Option Json) :
    Except StoreFault Request :=
  match readAddress address with
  | .ok address => .ok { method, address, body }
  | .error fault => .error (.unbuildable fault)

/-- A request about one object of a collection. The object has to have a name. -/
def makeNamed (method : Method) (collection name rest : String) (body : Option Json) :
    Except StoreFault Request :=
  if name = "" then .error (.unbuildable .noName)
  else make method (collection ++ "/" ++ name ++ rest) body

end Request

/-- The address of the sources of a namespace. -/
def sourcesAddress (ns : String) : String :=
  "/apis/" ++ apiGroup ++ "/" ++ apiVersion ++ "/namespaces/" ++ ns ++ "/clusterconfigs"

/-- The address of the artifacts of a namespace. -/
def artifactsAddress (kind : ArtifactKind) (ns : String) : String :=
  "/api/" ++ artifactVersion ++ "/namespaces/" ++ ns ++ "/" ++ kind.word

def namespacesAddress : String :=
  "/api/" ++ artifactVersion ++ "/namespaces"

/-- Where an object that is to be written goes. Both parts have to be there. -/
def requireKey (metadata : Metadata) : Except Error ObjectKey :=
  match metadata.name, metadata.ns with
  | some name, some ns => .ok ⟨ns, name⟩
  | none, _ => .error (.missingMetadata "name")
  | some _, none => .error (.missingMetadata "namespace")

end ConfigFanout.Api

namespace ConfigFanout.StoreCall

/-- The request for a call, or why there is none. -/
def request (call : StoreCall) : Except Error Api.Request :=
  let built (request : Except StoreFault Api.Request) : Except Error Api.Request :=
    request.mapError call.error
  match call with
  | .getSource key =>
    built (Api.Request.makeNamed .get (Api.sourcesAddress key.ns) key.name "" none)
  | .updateSource source => do
    let key ← Api.requireKey source.metadata
    built (Api.Request.makeNamed .put (Api.sourcesAddress key.ns) key.name "?" (some source.write))
  | .updateStatus source => do
    let key ← Api.requireKey source.metadata
    let status := (source.status.map ClusterConfigStatus.write).getD .null
    let body := Json.object [("status", status)]
    built (Api.Request.makeNamed .patch (Api.sourcesAddress key.ns) key.name "/status?" (some body))
  | .listNamespaces => built (Api.Request.make .get (Api.namespacesAddress ++ "?") none)
  | .getArtifact kind key =>
    built (Api.Request.makeNamed .get (Api.artifactsAddress kind key.ns) key.name "" none)
  | .createArtifact kind artifact => do
    let key ← Api.requireKey artifact.metadata
    built (Api.Request.make .post (Api.artifactsAddress kind key.ns ++ "?") (some artifact.write))
  | .replaceArtifact kind artifact => do
    let key ← Api.requireKey artifact.metadata
    built (Api.Request.makeNamed .put (Api.artifactsAddress kind key.ns) key.name "?"
      (some artifact.write))
  | .deleteArtifact kind key =>
    built (Api.Request.makeNamed .delete (Api.artifactsAddress kind key.ns) key.name "?"
      (some (.object [])))

end ConfigFanout.StoreCall
