import ConfigFanout.Error
import ConfigFanout.Json.Reader

-- What an API server answers, and what a refusal among the answers says.
namespace ConfigFanout.Api

/-- An answer, or none. -/
inductive Response where
  | answer (status : Nat) (body : String)
  | dropped
  deriving DecidableEq, Repr, Inhabited

/-- The phrases for the codes of refusals. -/
def phrases : List (Nat × String) :=
  [(400, "Bad Request"), (401, "Unauthorized"), (402, "Payment Required"), (403, "Forbidden"),
   (404, "Not Found"), (405, "Method Not Allowed"), (406, "Not Acceptable"),
   (407, "Proxy Authentication Required"), (408, "Request Timeout"), (409, "Conflict"),
   (410, "Gone"), (411, "Length Required"), (412, "Precondition Failed"),
   (413, "Payload Too Large"), (414, "URI Too Long"), (415, "Unsupported Media Type"),
   (416, "Range Not Satisfiable"), (417, "Expectation Failed"), (418, "I'm a teapot"),
   (421, "Misdirected Request"), (422, "Unprocessable Entity"), (423, "Locked"),
   (424, "Failed Dependency"), (425, "Too Early"), (426, "Upgrade Required"),
   (428, "Precondition Required"), (429, "Too Many Requests"),
   (431, "Request Header Fields Too Large"), (451, "Unavailable For Legal Reasons"),
   (500, "Internal Server Error"), (501, "Not Implemented"), (502, "Bad Gateway"),
   (503, "Service Unavailable"), (504, "Gateway Timeout"), (505, "HTTP Version Not Supported"),
   (506, "Variant Also Negotiates"), (507, "Insufficient Storage"), (508, "Loop Detected"),
   (510, "Not Extended"), (511, "Network Authentication Required")]

def statusLine (status : Nat) : String :=
  toString status ++ " " ++ (phrases.lookup status).getD "<unknown status code>"

namespace Refusal

/-- The form of a refusal that says itself what it is. -/
def form : Json.Form :=
  .strict "ErrorResponse"
    [("status", .text), ("message", .text), ("reason", .text), ("code", .nat16)]
    ["status", "code"] ["status", "code"]

/-- A refusal that says itself what it is. Its own code counts. It may also be given as the
list of its parts. -/
def read : Reader Refusal
  | .array [status, message, reason, code] => do
    let status ← Reader.text status
    let message ← Reader.text message
    let reason ← Reader.text reason
    return { status, message, reason, code := ← Reader.nat16 code }
  | json => do
    let json ← Reader.record "struct ErrorResponse" json
    let code ← json.field? "code" Reader.nat16
    let message ← json.field? "message" Reader.text
    let reason ← json.field? "reason" Reader.text
    let status ← json.field? "status" Reader.text
    let status ← require "status" status
    let code ← require "code" code
    return { status, message := message.getD "", reason := reason.getD "", code }

/-- The refusal in a body, or one made from the body as it is. -/
def ofBody (status : Nat) (body : String) : Refusal :=
  match Json.readText form read body with
  | .ok refusal => refusal
  | .error _ =>
    { status := statusLine status, message := Text.quote body,
      reason := "Failed to parse error data", code := status }

end Refusal

def isRefusal (status : Nat) : Bool :=
  400 ≤ status && status < 600

/-- What a body holds, by the way to read it. -/
def readBody {α : Type} (read : String → Except Json.TextFault α) :
    Response → Except StoreFault α
  | .dropped => .error (.unreachable "connection closed")
  | .answer status body =>
    if isRefusal status then .error (.refused (Refusal.ofBody status body))
    else (read body).mapError .unreadable

end ConfigFanout.Api
