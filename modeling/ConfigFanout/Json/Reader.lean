import ConfigFanout.Json.Parser

-- Reading values out of JSON. A record is read member by member in the order of the names;
-- only when all that is there was fine does a member that is not there count as a fault.
namespace ConfigFanout

/-- A way to read values of a type. -/
abbrev Reader (α : Type) := Json → Except ReadFault α

namespace Reader

variable {α : Type}

/-- Any value, as it is. -/
def anything : Reader Json := .ok

def text : Reader String
  | .string text => .ok text
  | other => .error (.invalidType other.outline "a string")

def bool : Reader Bool
  | .bool value => .ok value
  | other => .error (.invalidType other.outline "a boolean")

/-- An integer within limits, the upper one excluded. -/
def integer (low high : Int) (expected : String) : Reader Int
  | .integer value =>
    if low ≤ value ∧ value < high then .ok value
    else .error (.invalidValue (.integer value) expected)
  | other => .error (.invalidType other.outline expected)

def int64 : Reader Int64 := fun json =>
  (integer (-Int.pow 2 63) (Int.pow 2 63) "i64" json).map .ofInt

def nat16 : Reader Nat := fun json =>
  (integer 0 (Int.pow 2 16) "u16" json).map Int.toNat

/-- A word that has to be the given one. -/
def word (word : String) : Reader Unit := fun json => do
  let found ← text json
  if found = word then return else throw (.invalidValue (.string found) word)

/-- Null, or a value. -/
def nullable (reader : Reader α) : Reader (Option α)
  | .null => .ok none
  | other => (reader other).map some

/-- A list, from its first entry on. -/
def list (reader : Reader α) : Reader (List α)
  | .array items => items.mapM reader
  | other => .error (.invalidType other.outline "a sequence")

/-- The members of an object, whatever their names, in order. -/
def entries (reader : Reader α) : Reader (List (String × α))
  | .object members => members.mapM fun (name, value) => (reader value).map (name, ·)
  | other => .error (.invalidType other.outline "a map")

/-- An object, for its members to be read one by one. -/
def record (expected : String) : Reader Json
  | .object members => .ok (.object members)
  | other => .error (.invalidType other.outline expected)

end Reader

namespace Json

variable {α : Type}

/-- The member of that name, read if it is there. -/
def field? (value : Json) (name : String) (reader : Reader α) : Except ReadFault (Option α) :=
  match value.member? name with
  | none => .ok none
  | some member => (reader member).map some

/-- The member of that name, null counting as not there. -/
def nullableField? (value : Json) (name : String) (reader : Reader α) :
    Except ReadFault (Option α) := do
  return (← value.field? name (Reader.nullable reader)).join

end Json

/-- A member that has to be there, after all the others were read. -/
def require {α : Type} (name : String) : Option α → Except ReadFault α
  | some value => .ok value
  | none => .error (.missingField name)

/-- What a text of a form is read as. The form is the one that the reader takes. -/
def Json.readText {α : Type} (form : Form) (reader : Reader α) (text : String) :
    Except TextFault α := do
  let value ← ofText form text
  (reader value).mapError fun fault => .ofStop text.toList ⟨.unfit fault, 0⟩

end ConfigFanout
