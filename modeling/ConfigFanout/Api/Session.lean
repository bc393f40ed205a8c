import ConfigFanout.Api.Answer
import ConfigFanout.Api.ToldEvent
import ConfigFanout.Reconcile

-- A conversation with an API server whose answers are known beforehand.
namespace ConfigFanout.Api

/-- A conversation. -/
structure Session where
  reporter : Reporter
  /-- The answers to come. -/
  responses : List Response := []
  /-- The requests that were sent, the first one first. -/
  requests : List Request := []
  /-- The events that the server has. -/
  told : List EventSeries := []

namespace Session

/-- What is answered when there are no more answers. -/
def exhausted : Response :=
  .answer 404 <| "\x7b\"kind\":\"Status\",\"apiVersion\":\"v1\",\"status\":\"Failure\"," ++
    "\"message\":\"script exhausted\",\"reason\":\"NotFound\",\"code\":404\x7d"

def send (session : Session) (request : Request) : Response × Session :=
  let sent := { session with requests := session.requests ++ [request] }
  match session.responses with
  | [] => (exhausted, sent)
  | response :: rest => (response, { sent with responses := rest })

/-- The answer to a call. A call without a request fails before anything is sent. -/
def answer (call : StoreCall) (session : Session) :
    Except Error call.Answer × Session :=
  match call.request with
  | .error error => (.error error, session)
  | .ok request =>
    let (response, session) := session.send request
    (call.read response, session)

/-- The series that an event belongs to, with that event counted. It keeps the note of its
first event. -/
def seriesOf (session : Session) (event : Event) : EventSeries :=
  match session.told.find? (·.key = eventKey event) with
  | some series => { series with count := series.count + 1 }
  | none => { key := eventKey event, note := event.note, count := 1 }

/-- Tells the server of an event. Where that fails it is as if nothing had been told. -/
def tell (event : Event) (session : Session) : Session :=
  let series := session.seriesOf event
  match series.request session.reporter with
  | .error _ => session
  | .ok request =>
    let (response, session) := session.send request
    match readBody (Json.ofText eventForm) response with
    | .error _ => session
    | .ok _ =>
      let others := session.told.filter (·.key ≠ series.key)
      { session with told := others ++ [series] }

/-- The conversation as a store. -/
def store : Store Session where
  answer := answer
  record := tell

end Session

/-- Something to do in a conversation. -/
inductive Task where
  | call (call : StoreCall)
  | publish (event : Event)
  /-- A round for the source that a notice names. -/
  | reconcile (source : ClusterConfig)

/-- What a task came to. -/
inductive TaskOutcome where
  | called (call : StoreCall) (result : Except Error call.Answer)
  | published
  | acted (action : Action)
  | roundFailed (error : Error) (next : Action)

namespace Session

def perform (settings : Settings) (session : Session) : Task → TaskOutcome × Session
  | .call call =>
    let (result, session) := (Program.ask call).run store session
    (.called call result, session)
  | .publish event =>
    let (_, session) := (Program.tell event).run store session
    (.published, session)
  | .reconcile source =>
    match (reconcileNoticed source).run store session with
    | (.ok action, session) => (.acted action, session)
    | (.error error, session) => (.roundFailed error settings.afterFailure, session)

end Session

end ConfigFanout.Api
