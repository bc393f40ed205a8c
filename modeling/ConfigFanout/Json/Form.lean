import ConfigFanout.Json.Fault

-- What a JSON text has to be, part by part. A form says which members of an object are
-- looked at. The others are passed over, and whatever they are is no fault.
namespace ConfigFanout.Json

/-- What a list is that stands where a record should be. -/
inductive ListUse where
  /-- Something else, at first sight. -/
  | foreign
  /-- Something else, once its bracket was opened. -/
  | refused
  /-- The record, as the list of its members. Those that are needed have to be there. -/
  | members (needed : List String)
  deriving DecidableEq, Repr, Inhabited

/-- The form of a record, over the forms of its parts. -/
structure Record (part : Type) where
  /-- The record, as messages have it. -/
  expected : String
  /-- The members that are looked at. -/
  members : List (String × part) := []
  /-- The members that are words, each of which has to be the given one. -/
  words : List (String × String) := []
  /-- The members that have to be there. -/
  required : List String := []
  /-- Whether a member may be null, which is as if it were not there, and may be there again,
  where the last one counts. -/
  loose : Bool := false
  /-- Whether the other members are looked at, too. They may have any value. -/
  looksAtAll : Bool := false
  listUse : ListUse := .refused

/-- What a text has to be. -/
inductive Form where
  /-- Any value. -/
  | anything
  | text
  /-- A string in a format. -/
  | formatted (expected : String) (check : String → Except ReadFault Unit)
  | bool
  /-- An integer within limits, the upper one excluded. -/
  | integer (low high : Int) (expected : String)
  /-- One of some words. -/
  | choice (words : List String)
  /-- Null, or a value of a form. -/
  | nullable (form : Form)
  | list (form : Form)
  /-- An object with members of any names and of one form. -/
  | entries (form : Form)
  | record (record : Record Form)

namespace Form

def int64 : Form := .integer (-Int.pow 2 63) (Int.pow 2 63) "i64"

def int32 : Form := .integer (-Int.pow 2 31) (Int.pow 2 31) "i32"

def nat16 : Form := .integer 0 (Int.pow 2 16) "u16"

def nat32 : Form := .integer 0 (Int.pow 2 32) "u32"

/-- A loose record. -/
def loose (expected : String) (members : List (String × Form))
    (words : List (String × String)) : Form :=
  .record { expected, members, words, loose := true }

/-- A record that may also be given as the list of its members, each of which may be there
once. -/
def strict (name : String) (members : List (String × Form))
    (required needed : List String) : Form :=
  .record { expected := "struct " ++ name, members, required, listUse := .members needed }

end Form

end ConfigFanout.Json
