import ConfigFanout.ArtifactKind
import ConfigFanout.Json.Fault
import ConfigFanout.ObjectMap

-- What can go wrong on the way to the store and in it, and the words for it.
namespace ConfigFanout

/-- The answer of an API server that refuses a request. -/
structure Refusal where
  status : String := "Failure"
  message : String := ""
  reason : String := ""
  code : Nat
  deriving DecidableEq, Repr, Inhabited

/-- Why there is no request to send. -/
inductive AddressFault where
  /-- The object has no name. -/
  | noName
  /-- A character may not stand in an address. -/
  | badCharacter
  /-- The address is too long. -/
  | tooLong
  deriving DecidableEq, Repr, Inhabited

/-- Why a request to the store came to nothing. -/
inductive StoreFault where
  /-- The server refused. -/
  | refused (refusal : Refusal)
  /-- There is no request to send: the address would not be one. -/
  | unbuildable (fault : AddressFault)
  /-- The answer is not what was asked for. -/
  | unreadable (fault : Json.TextFault)
  /-- No answer came. -/
  | unreachable (reason : String)
  deriving DecidableEq, Repr, Inhabited

/-- Why a piece of work on a source failed. -/
inductive Error where
  /-- The object, or the namespace it is to be in, does not exist. -/
  | notFound (kind : ResourceKind) (key : ObjectKey)
  | store (fault : StoreFault)
  /-- The artifact belongs to another source, given as namespace and name with a slash. -/
  | foreign (kind : ResourceKind) (key : ObjectKey) (owner : String)
  /-- The metadata lack a part. -/
  | missingMetadata (field : String)
  /-- The status has no JSON form. -/
  | serialization (reason : String)
  deriving DecidableEq, Repr, Inhabited

/-- The key with a slash between namespace and name. -/
def ObjectKey.path (key : ObjectKey) : String :=
  key.ns ++ "/" ++ key.name

/-- The refusal in words: the short form, then all its parts. -/
def Refusal.text (refusal : Refusal) : String :=
  let parts := String.intercalate ", "
    ["status: " ++ Text.quote refusal.status, "message: " ++ Text.quote refusal.message,
      "reason: " ++ Text.quote refusal.reason, "code: " ++ toString refusal.code]
  refusal.message ++ ": " ++ refusal.reason ++ " (ErrorResponse \x7b " ++ parts ++ " \x7d)"

def AddressFault.message : AddressFault → String
  | .noName => "failed to validate request: A non-empty name is required"
  | .badCharacter => "failed to build request: invalid uri character"
  | .tooLong => "failed to build request: uri too long"

def StoreFault.message : StoreFault → String
  | .refused refusal => "ApiError: " ++ refusal.text
  | .unbuildable fault => "Failed to build request: " ++ fault.message
  | .unreadable fault => "Error deserializing response: " ++ fault.message
  | .unreachable reason => "ServiceError: " ++ reason

namespace Error

def message : Error → String
  | .notFound kind key => s!"{kind.name} '{key.name}' not found in namespace '{key.ns}'"
  | .store fault => "store request failed: " ++ fault.message
  | .foreign kind key owner =>
    s!"{kind.name} '{key.name}' in namespace '{key.ns}' belongs to ClusterConfig '{owner}'"
  | .missingMetadata field => s!"ClusterConfig is missing metadata.{field}"
  | .serialization reason => "unable to encode status: " ++ reason

/-- Whether something does not exist. -/
def isNotFound : Error → Bool
  | .notFound .. => true
  | _ => false

/-- A fault of a request about one object. A refusal with code 404 says that it does not
exist. -/
def ofFault (fault : StoreFault) (kind : ResourceKind) (key : ObjectKey) : Error :=
  match fault with
  | .refused refusal => if refusal.code = 404 then .notFound kind key else .store fault
  | fault => .store fault

end Error

end ConfigFanout
