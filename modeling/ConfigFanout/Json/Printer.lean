import ConfigFanout.Binary64.Shortest
import ConfigFanout.Json.Basic
import ConfigFanout.Text.Quoted

-- The compact text of a JSON value: no blanks, and only what has to be escaped is.
namespace ConfigFanout.Json

/-- The digits of a number below 65536, four of them. -/
def hex4 (n : Nat) : List Char :=
  let digits := Text.hex n
  List.replicate (4 - digits.length) '0' ++ digits

/-- How one character is written inside a JSON string. -/
def escapedChar (c : Char) : List Char :=
  if c = '"' ∨ c = '\\' then ['\\', c]
  else if c = '\x08' then ['\\', 'b']
  else if c = '\x09' then ['\\', 't']
  else if c = '\x0a' then ['\\', 'n']
  else if c = '\x0c' then ['\\', 'f']
  else if c = '\x0d' then ['\\', 'r']
  else if c.toNat < 0x20 then ['\\', 'u'] ++ hex4 c.toNat
  else [c]

/-- A text as a JSON string. -/
def renderText (text : String) : String :=
  String.ofList ('"' :: text.toList.flatMap escapedChar ++ ['"'])

mutual

/-- The text of a value. -/
def render : Json → String
  | .null => "null"
  | .bool value => if value then "true" else "false"
  | .integer value => toString value
  | .decimal value => value.text
  | .string text => renderText text
  | .array items => "[" ++ renderItems items ++ "]"
  | .object members => "\x7b" ++ renderMembers members ++ "\x7d"

/-- The texts of some values, commas between them. -/
def renderItems : List Json → String
  | [] => ""
  | [item] => render item
  | item :: rest => render item ++ "," ++ renderItems rest

/-- The texts of some members, commas between them. -/
def renderMembers : List (String × Json) → String
  | [] => ""
  | [(name, value)] => renderText name ++ ":" ++ render value
  | (name, value) :: rest => renderText name ++ ":" ++ render value ++ "," ++ renderMembers rest

end

end ConfigFanout.Json
