import ConfigFanout.Binary64.Shortest
import ConfigFanout.Json.Basic
import ConfigFanout.Text.Quoted

-- What can be wrong with a JSON value that is to be read as something, and with a JSON text.
-- A fault of a text has a place in it.
namespace ConfigFanout

namespace Json

/-- A value without what is in it, if something is. -/
inductive Outline where
  | null
  | bool (value : Bool)
  | integer (value : Int)
  | decimal (value : Binary64)
  | string (text : String)
  | sequence
  | map
  deriving DecidableEq, Repr, Inhabited

/-- What a value is at first sight. -/
def outline : Json → Outline
  | .null => .null
  | .bool value => .bool value
  | .integer value => .integer value
  | .decimal value => .decimal value
  | .string text => .string text
  | .array _ => .sequence
  | .object _ => .map

/-- What a value is, as messages have it. -/
def Outline.describe : Outline → String
  | .null => "null"
  | .bool value => s!"boolean `{value}`"
  | .integer value => s!"integer `{value}`"
  | .decimal value => s!"floating point `{value.text}`"
  | .string text => s!"string {Text.quote text}"
  | .sequence => "sequence"
  | .map => "map"

end Json

/-- Why a JSON value could not be read. -/
inductive ReadFault where
  /-- A record lacks a member. -/
  | missingField (name : String)
  /-- A record has a member twice. -/
  | duplicateField (name : String)
  /-- A word is none of those that may stand there. -/
  | unknownVariant (found : String) (expected : List String)
  /-- The value is of another sort than expected. -/
  | invalidType (found : Json.Outline) (expected : String)
  /-- The value is of the right sort and yet may not stand there. -/
  | invalidValue (found : Json.Outline) (expected : String)
  /-- A record was given as a list with too few or too many entries. -/
  | invalidLength (found : Nat) (expected : String)
  /-- A string is not in the format that it should have. -/
  | malformed (reason : String)
  deriving DecidableEq, Repr, Inhabited

def ReadFault.message : ReadFault → String
  | .missingField name => s!"missing field `{name}`"
  | .duplicateField name => s!"duplicate field `{name}`"
  | .unknownVariant found expected =>
    let choices := String.intercalate " or " (expected.map fun word => s!"`{word}`")
    s!"unknown variant `{found}`, expected {choices}"
  | .invalidType found expected => s!"invalid type: {found.describe}, expected {expected}"
  | .invalidValue found expected => s!"invalid value: {found.describe}, expected {expected}"
  | .invalidLength found expected => s!"invalid length {found}, expected {expected}"
  | .malformed reason => reason

namespace Json

/-- What brackets can hold. -/
inductive Container where
  | list
  | object
  deriving DecidableEq, Repr, Inhabited

/-- What can be wrong with a text. -/
inductive Flaw where
  /-- The text ends where there should be a value. -/
  | valueEnds
  /-- The text ends within a string. -/
  | stringEnds
  /-- The text ends within brackets. -/
  | ends (inside : Container)
  /-- Neither a comma nor the closing bracket follows an entry. -/
  | noComma (inside : Container)
  /-- No colon follows the name of a member. -/
  | noColon
  /-- What stands there begins no value. -/
  | noValue
  /-- A word begins like one of the three that there are and is none. -/
  | noWord
  /-- A member has no name. -/
  | noName
  /-- A comma stands before a closing bracket. -/
  | lastComma
  /-- Something follows the value. -/
  | restFollows
  /-- A backslash and what follows it stand for nothing. -/
  | badEscape
  /-- The second half of a character has no first half, or the first half has no second. -/
  | loneHalf
  /-- No escape follows the first half of a character. -/
  | cutHalf
  /-- A control character stands in a string as it is. -/
  | controlCharacter
  /-- The digits and signs make no number. -/
  | badNumber
  /-- The number is beyond all those of 64 bits. -/
  | tooGreat
  /-- Too many brackets are open. -/
  | tooDeep
  /-- A value is not the one to be read there. -/
  | unfit (fault : ReadFault)
  deriving DecidableEq, Repr, Inhabited

def Flaw.message : Flaw → String
  | .valueEnds => "EOF while parsing a value"
  | .stringEnds => "EOF while parsing a string"
  | .ends .list => "EOF while parsing a list"
  | .ends .object => "EOF while parsing an object"
  | .noComma .list => "expected `,` or `]`"
  | .noComma .object => "expected `,` or `\x7d`"
  | .noColon => "expected `:`"
  | .noValue => "expected value"
  | .noWord => "expected ident"
  | .noName => "key must be a string"
  | .lastComma => "trailing comma"
  | .restFollows => "trailing characters"
  | .badEscape => "invalid escape"
  | .loneHalf => "lone leading surrogate in hex escape"
  | .cutHalf => "unexpected end of hex escape"
  | .controlCharacter => "control character (\\u0000-\\u001F) found while parsing a string"
  | .badNumber => "invalid number"
  | .tooGreat => "number out of range"
  | .tooDeep => "recursion limit exceeded"
  | .unfit fault => fault.message

/-- What is wrong with a text, and where: in which line, counted from one, and after how many
bytes of it. -/
structure TextFault where
  flaw : Flaw
  line : Nat
  column : Nat
  deriving DecidableEq, Repr, Inhabited

def TextFault.message (fault : TextFault) : String :=
  s!"{fault.flaw.message} at line {fault.line} column {fault.column}"

end Json

end ConfigFanout
