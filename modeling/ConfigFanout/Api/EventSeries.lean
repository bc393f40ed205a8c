import ConfigFanout.Api.Request

-- Events as an API server keeps them. An event that is told again is not a new one: the
-- first one is told to have happened once more.
namespace ConfigFanout.Api

/-- Who tells of events. -/
structure Reporter where
  controller : String
  /-- The machine it runs on. -/
  host : Option String := none
  deriving DecidableEq, Repr, Inhabited

/-- What an event is about. -/
structure Regarding where
  name : Option String
  /-- The namespace. -/
  ns : Option String
  uid : Option String
  deriving DecidableEq, Repr, Inhabited

/-- What makes two events the same. -/
structure EventKey where
  severity : Severity
  reason : String
  regarding : Regarding
  deriving DecidableEq, Repr, Inhabited

/-- An event that was told, and how often. -/
structure EventSeries where
  key : EventKey
  note : String
  count : Nat
  deriving DecidableEq, Repr, Inhabited

def eventKey (event : Event) : EventKey :=
  let metadata := event.source.metadata
  { severity := event.severity, reason := event.reason
    regarding := { name := metadata.name, ns := metadata.ns, uid := metadata.uid } }

def severityName : Severity → String
  | .normal => "Normal"
  | .warning => "Warning"

/-- The version of the API of events. -/
def eventsVersion : String := "events.k8s.io/v1"

namespace Regarding

def write (regarding : Regarding) : Json :=
  .object <| Json.present
    [("apiVersion", some (.string (apiGroup ++ "/" ++ apiVersion))),
     ("kind", some (.string ResourceKind.clusterConfig.name)),
     ("name", regarding.name.map .string),
     ("namespace", regarding.ns.map .string),
     ("uid", regarding.uid.map .string)]

end Regarding

namespace EventSeries

/-- An event as JSON, without its times and the name that it gets. -/
def write (series : EventSeries) (reporter : Reporter) : Json :=
  let metadata := Json.present [("namespace", series.key.regarding.ns.map .string)]
  let instanceName := reporter.host.getD reporter.controller
  .object
    [("action", .string "Reconcile"),
     ("apiVersion", .string eventsVersion),
     ("kind", .string "Event"),
     ("metadata", .object metadata),
     ("note", .string series.note),
     ("reason", .string series.key.reason),
     ("regarding", series.key.regarding.write),
     ("reportingController", .string reporter.controller),
     ("reportingInstance", .string instanceName),
     ("series", if series.count = 1 then .null
       else .object [("count", .integer series.count)]),
     ("type", .string (severityName series.key.severity))]

/-- The address of the events of the namespace that an event is told in. -/
def address (series : EventSeries) : String :=
  "/apis/" ++ eventsVersion ++ "/namespaces/" ++ series.key.regarding.ns.getD "default" ++ "/events"

/-- The request that tells of an event: a new one is put up, one that was told before is
changed. The name of the event in the address starts with that of the source; the rest is
the server's and the clock's, so the name is written as a star. A number sign in the name of
the source ends the address. -/
def request (series : EventSeries) (reporter : Reporter) : Except StoreFault Request := do
  let body := some (series.write reporter)
  if series.count = 1 then Request.make .post (series.address ++ "?") body
  else
    let name := series.key.regarding.name.getD reporter.controller
    discard (Request.make .patch (series.address ++ "/" ++ name ++ "?") body)
    let rest := if name.toList.contains '#' then "/*" else "/*?"
    Request.make .patch (series.address ++ rest) body

end EventSeries

end ConfigFanout.Api
