import ConfigFanout.Api.Deletion
import ConfigFanout.Api.Listing
import ConfigFanout.Api.Response
import ConfigFanout.ClusterConfig.Wire
import ConfigFanout.Program

-- The answers to calls, from the responses of an API server.
namespace ConfigFanout.StoreCall

/-- What the body of a response to a call is read as. -/
def readText : (call : StoreCall) → String → Except Json.TextFault call.Answer
  | .getSource _ | .updateSource _ | .updateStatus _ =>
    Json.readText ClusterConfig.form ClusterConfig.read
  | .listNamespaces => Json.readText Api.namespacesForm Api.readNamespaces
  | .getArtifact kind _ | .createArtifact kind _ | .replaceArtifact kind _ =>
    Json.readText (Artifact.form kind) (Artifact.read kind)
  | .deleteArtifact kind _ => Api.readDeletion kind

/-- The answer to a call that a response is. -/
def read (call : StoreCall) (response : Api.Response) : Except Error call.Answer :=
  (Api.readBody call.readText response).mapError call.error

end ConfigFanout.StoreCall
