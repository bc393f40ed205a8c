import ConfigFanout.Artifact.Wire

-- What an API server answers when an object was deleted: the object, or a note about it.
-- Nothing of it is kept.
namespace ConfigFanout.Api

open Json (Form)

/-- A record whose members may all be left out. -/
def optionalForm (name : String) (members : List (String × Form)) : Form :=
  .strict name members [] []

/-- One of the reasons why a request failed. -/
def causeForm : Form :=
  optionalForm "StatusCause" [("reason", .text), ("message", .text), ("field", .text)]

/-- What a note is about. -/
def detailsForm : Form :=
  optionalForm "StatusDetails"
    [("name", .text), ("group", .text), ("kind", .text), ("uid", .text),
     ("causes", .list causeForm), ("retryAfterSeconds", .nat32)]

/-- A note about a request. -/
def noteForm : Form :=
  optionalForm "Status"
    [("code", .nat16), ("details", .nullable detailsForm), ("message", .text),
     ("reason", .text), ("status", .nullable (.choice ["Success", "Failure"]))]

/-- The form of an answer, which hangs on the kind that it names. -/
def deletionForm (kind : ArtifactKind) (answer : Json) : Form :=
  match answer.member? "kind" with
  | some (.string "Status") => noteForm
  | _ => Artifact.form kind

/-- Reads what is answered when an object was deleted. All of it is looked at first, whatever
it is. -/
def readDeletion (kind : ArtifactKind) (text : String) : Except Json.TextFault Unit := do
  let answer ← Json.ofText .anything text
  discard (Json.ofText (deletionForm kind answer) text)

end ConfigFanout.Api
