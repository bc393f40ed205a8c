import ConfigFanout.Json.Printer

-- JSON values as YAML in block style. A list inside an object stands under its name
-- without further indentation; what is empty is written on one line.
namespace ConfigFanout.Json

/-- Words that stand for something other than a text. -/
def yamlWords : List String :=
  ["null", "Null", "NULL", "~", "true", "True", "TRUE", "false", "False", "FALSE",
   "y", "Y", "yes", "Yes", "YES", "n", "N", "no", "No", "NO",
   "on", "On", "ON", "off", "Off", "OFF"]

/-- Whether a text may stand in YAML without quotes. -/
def isPlain (text : String) : Bool :=
  let chars := text.toList
  let pairs := chars.zip (chars.drop 1)
  match chars with
  | [] => false
  | first :: _ =>
    (first.isAlpha || first = '.' || first = '/') && chars.getLast? ≠ some ' ' &&
      chars.getLast? ≠ some ':' && !yamlWords.contains text &&
      chars.all (fun c => 0x20 ≤ c.toNat && c.toNat < 0x7f) &&
      pairs.all (fun pair => pair ≠ (':', ' ') && pair ≠ (' ', '#'))

/-- A text in YAML. Between quotes, a quote is written twice. -/
def yamlText (text : String) : String :=
  if isPlain text then text
  else
    let doubled := text.toList.flatMap fun c => if c = '\'' then ['\'', '\''] else [c]
    String.ofList ('\'' :: doubled ++ ['\''])

/-- What stands before every line at some depth. -/
def indentation (depth : Nat) : String :=
  String.ofList (List.replicate (2 * depth) ' ')

mutual

/-- The lines of a value that begins on a line of its own, at some depth. -/
def yamlLines (depth : Nat) : Json → List String
  | .object [] => [indentation depth ++ "\x7b\x7d"]
  | .object members => yamlMembers depth members
  | .array [] => [indentation depth ++ "[]"]
  | .array items => yamlItems depth items
  | .string text => [indentation depth ++ yamlText text]
  | other => [indentation depth ++ other.render]

/-- The lines of some members. -/
def yamlMembers (depth : Nat) : List (String × Json) → List String
  | [] => []
  | (name, value) :: rest =>
    let start := indentation depth ++ yamlText name ++ ":"
    let lines := match value with
      | .object (first :: others) => start :: yamlMembers (depth + 1) (first :: others)
      | .array (first :: others) => start :: yamlItems depth (first :: others)
      | .object [] => [start ++ " \x7b\x7d"]
      | .array [] => [start ++ " []"]
      | .string text => [start ++ " " ++ yamlText text]
      | other => [start ++ " " ++ other.render]
    lines ++ yamlMembers depth rest

/-- The lines of some entries of a list. The first line of an entry stands after a dash. -/
def yamlItems (depth : Nat) : List Json → List String
  | [] => []
  | item :: rest =>
    let lines := match yamlLines (depth + 1) item with
      | [] => []
      | first :: others =>
        (indentation depth ++ "- " ++ (first.drop (2 * (depth + 1))).toString) :: others
    lines ++ yamlItems depth rest

end

/-- A value as a YAML document. -/
def renderYaml (value : Json) : String :=
  String.join ((yamlLines 0 value).map (· ++ "\n"))

end ConfigFanout.Json
