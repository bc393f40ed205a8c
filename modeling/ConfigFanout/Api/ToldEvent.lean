import ConfigFanout.Api.EventSeries
import ConfigFanout.Metadata.Wire

-- Events as an API server gives them back. Nothing of them is kept; they only have to be
-- events.
namespace ConfigFanout.Api

open Json (Form)

/-- The object that an event is about, or one that has to do with it. -/
def referenceForm : Form :=
  .loose "ObjectReference"
    (["apiVersion", "fieldPath", "kind", "name", "namespace", "resourceVersion", "uid"].map
      (·, .text)) []

/-- How often an event was told, and when last. The time has to be there. -/
def seriesForm : Form :=
  .record
    { expected := "EventSeries"
      members := [("count", .int32), ("lastObservedTime", Timestamp.form)]
      required := ["lastObservedTime"]
      loose := true }

def eventForm : Form :=
  .loose "Event"
    [("action", .text), ("deprecatedCount", .int32),
     ("deprecatedFirstTimestamp", Timestamp.form), ("deprecatedLastTimestamp", Timestamp.form),
     ("deprecatedSource", .loose "EventSource" [("component", .text), ("host", .text)] []),
     ("eventTime", Timestamp.form), ("metadata", Metadata.form), ("note", .text),
     ("reason", .text), ("regarding", referenceForm), ("related", referenceForm),
     ("reportingController", .text), ("reportingInstance", .text), ("series", seriesForm),
     ("type", .text)]
    [("apiVersion", eventsVersion), ("kind", "Event")]

end ConfigFanout.Api
