import ConfigFanout.Json.Basic

-- JSON merge patches: an object names the members that change, with null for a member
-- that goes; any other value takes the place of what was there.
namespace ConfigFanout.Json

mutual

/-- The target after the patch. -/
def mergePatch (patch target : Json) : Json :=
  match patch with
  | .object changes =>
    match target with
    | .object members => .object (mergeMembers changes members)
    | _ => .object (mergeMembers changes [])
  | other => other

/-- The members after each change in turn. -/
def mergeMembers (changes members : List (String × Json)) : List (String × Json) :=
  match changes with
  | [] => members
  | (name, .null) :: rest => mergeMembers rest (members.filter (·.1 ≠ name))
  | (name, change) :: rest =>
    let merged := mergePatch change ((members.lookup name).getD .null)
    mergeMembers rest (insertMember name merged members)

end

end ConfigFanout.Json
