import ConfigFanout.Json.Form
import ConfigFanout.Json.Token

-- Reading JSON texts that have to be of a form. The first fault in the text is the answer,
-- be it one of the text itself or of the form. What a form does not look at is passed over.
namespace ConfigFanout.Json

/-! ## Brackets -/

/-- How deep lists and objects may be nested where they are looked at. -/
def greatestDepth : Nat := 127

/-- Goes on behind an opening bracket, with the text from the bracket on at hand, if that is
not too deep. -/
def descend {α : Type} (depth : Nat) (text : List Char) (next : Nat → Except Stop α) :
    Except Stop α :=
  match depth with
  | 0 => stopPast .tooDeep text
  | depth + 1 => next depth

/-- The text of the next entry of a list, or nothing at its end. -/
def nextItem? (first : Bool) (text : List Char) : Except Stop (Option (List Char)) :=
  match skipJsonBlanks text with
  | [] => stopAt (.ends .list) []
  | ']' :: _ => .ok none
  | c :: rest =>
    if first then .ok (some (c :: rest))
    else if c = ',' then
      match skipJsonBlanks rest with
      | [] => stopAt .valueEnds []
      | ']' :: rest => stopPast .lastComma (']' :: rest)
      | rest => .ok (some rest)
    else stopPast (.noComma .list) (c :: rest)

/-- The text of the next name in an object, from behind its opening quote on, or nothing at
the end of the object. -/
def nextName? (first : Bool) (text : List Char) : Except Stop (Option (List Char)) :=
  match skipJsonBlanks text with
  | [] => stopAt (.ends .object) []
  | '\x7d' :: _ => .ok none
  | c :: rest =>
    if first then
      if c = '"' then .ok (some rest) else stopPast .noName (c :: rest)
    else if c = ',' then
      match skipJsonBlanks rest with
      | [] => stopAt .valueEnds []
      | '"' :: rest => .ok (some rest)
      | '\x7d' :: rest => stopPast .lastComma ('\x7d' :: rest)
      | rest => stopPast .noName rest
    else stopPast (.noComma .object) (c :: rest)

/-- The text after the colon that follows a name. -/
def afterColon (text : List Char) : Except Stop (List Char) :=
  match skipJsonBlanks text with
  | [] => stopAt (.ends .object) []
  | ':' :: rest => .ok rest
  | rest => stopPast .noColon rest

/-- The text after the bracket that has to end a list here. -/
def afterList (text : List Char) : Except Stop (List Char) :=
  match skipJsonBlanks text with
  | [] => stopAt (.ends .list) []
  | ']' :: rest => .ok rest
  | ',' :: rest =>
    match skipJsonBlanks rest with
    | ']' :: rest => stopPast .lastComma (']' :: rest)
    | rest => stopPast .restFollows rest
  | rest => stopPast .restFollows rest

/-- The text from where an object is left: after its bracket, if it ends here. -/
def leaveObject (text : List Char) : List Char :=
  match skipJsonBlanks text with
  | '\x7d' :: rest => rest
  | rest => rest

/-- The text from where a list is left: after its bracket, or after a comma. -/
def leaveList (text : List Char) : List Char :=
  match skipJsonBlanks text with
  | ']' :: rest => rest
  | ',' :: rest => skipJsonBlanks rest
  | rest => rest

/-! ## Passing over -/

/-- Where a text that is passed over goes on. -/
inductive Place where
  /-- Before a value. -/
  | value
  /-- Behind a bracket that was just opened. -/
  | opened
  /-- Behind an entry. -/
  | entry
  deriving DecidableEq, Repr

/-- The text of the next value that is passed over, after its name if it has one. -/
def passName (fuel : Nat) (inside : Container) (text : List Char) : Except Stop (List Char) :=
  match inside with
  | .list => .ok text
  | .object =>
    match skipJsonBlanks text with
    | [] => stopAt (.ends .object) []
    | '"' :: rest => (passString fuel rest).bind afterColon
    | rest => stopPast .noName rest

/-- Whether a character closes a bracket. -/
def closes (inside : Container) (c : Char) : Bool :=
  match inside with
  | .list => c = ']'
  | .object => c = '\x7d'

/-- The text after a value that is passed over, with the brackets that are open within it,
the last one first. Every step costs one of `fuel`. -/
def passValue (fuel : Nat) (place : Place) (brackets : List Container) (text : List Char) :
    Except Stop (List Char) :=
  match fuel with
  | 0 => stopAt .valueEnds text
  | fuel + 1 =>
    match place, brackets with
    | .value, brackets =>
      match skipJsonBlanks text with
      | '[' :: rest => passValue fuel .opened (.list :: brackets) rest
      | '\x7b' :: rest => passValue fuel .opened (.object :: brackets) rest
      | text =>
        match passScalar fuel text with
        | .ok rest => passValue fuel .entry brackets rest
        | .error stop => .error stop
    | _, [] => .ok text
    | place, inside :: outer =>
      match skipJsonBlanks text with
      | [] => stopAt (.ends inside) []
      | c :: rest =>
        if closes inside c then passValue fuel .entry outer rest
        else if place = .entry && c ≠ ',' then stopPast (.noComma inside) (c :: rest)
        else
          match passName fuel inside (if place = .entry then rest else c :: rest) with
          | .ok rest => passValue fuel .value (inside :: outer) rest
          | .error stop => .error stop

/-! ## Reading values of a form -/

/-- Stops at a value that is of another sort than expected: at the bracket of a list or an
object, and behind any other value. -/
def mismatch {α : Type} (fuel : Nat) (expected : String) (text : List Char) : Except Stop α :=
  match skipJsonBlanks text with
  | '[' :: rest => stopAt (.unfit (.invalidType .sequence expected)) ('[' :: rest)
  | '\x7b' :: rest => stopAt (.unfit (.invalidType .map expected)) ('\x7b' :: rest)
  | text => do
    let (value, rest) ← scanScalar fuel text
    stopAt (.unfit (.invalidType value.outline expected)) rest

/-- A string, if there is one. -/
def scanText (fuel : Nat) (expected : String) (text : List Char) :
    Except Stop (String × List Char) :=
  match skipJsonBlanks text with
  | '"' :: rest => scanString fuel [] rest
  | text => mismatch fuel expected text

/-- Null, where there has to be nothing else. -/
def scanNull (fuel : Nat) (expected : String) (text : List Char) : Except Stop (List Char) :=
  match skipJsonBlanks text with
  | 'n' :: rest => afterWord "ull".toList rest
  | text => mismatch fuel expected text

/-- One of some words, from behind its opening quote on. -/
def scanWord (fuel : Nat) (words : List String) (text : List Char) :
    Except Stop (String × List Char) := do
  let (word, rest) ← scanString fuel [] text
  if words.contains word then return (word, rest)
  else stopAt (.unfit (.unknownVariant word words)) rest

/-- One of some words as the name of a member, from behind the opening bracket on. -/
def scanWordName (fuel : Nat) (words : List String) (text : List Char) :
    Except Stop (String × List Char) :=
  match skipJsonBlanks text with
  | [] => stopAt (.ends .object) []
  | '"' :: rest => scanWord fuel words rest
  | '\x7d' :: rest => stopPast .noValue ('\x7d' :: rest)
  | rest => stopPast .noName rest

/-- One of some words, or an object whose one member has that word as its name and null as
its value. -/
def scanChoice (fuel depth : Nat) (words : List String) (text : List Char) :
    Except Stop (String × List Char) :=
  match skipJsonBlanks text with
  | [] => stopAt .valueEnds []
  | '"' :: rest => scanWord fuel words rest
  | '\x7b' :: rest =>
    descend depth ('\x7b' :: rest) fun _ => do
      let (word, rest) ← scanWordName fuel words rest
      let rest ← scanNull fuel "unit" (← afterColon rest)
      match skipJsonBlanks rest with
      | [] => stopAt (.ends .object) []
      | '\x7d' :: rest => return (word, rest)
      | rest => stopAt .noValue rest
  | text => stopPast .noValue text

/-- A value that is no list, no object and not null, of a form for such values. -/
def scanPlain (fuel depth : Nat) (form : Form) (text : List Char) :
    Except Stop (Json × List Char) :=
  match form with
  | .text => (scanText fuel "a string" text).map fun (text, rest) => (.string text, rest)
  | .formatted expected check => do
    let (word, rest) ← scanText fuel expected text
    match check word with
    | .ok () => return (.string word, rest)
    | .error fault => stopAt (.unfit fault) rest
  | .bool =>
    match skipJsonBlanks text with
    | 't' :: rest => scanScalar fuel ('t' :: rest)
    | 'f' :: rest => scanScalar fuel ('f' :: rest)
    | text => mismatch fuel "a boolean" text
  | .integer low high expected =>
    match skipJsonBlanks text with
    | [] => stopAt .valueEnds []
    | c :: rest => do
      if beginsNumber c then
        let (value, rest) ← scanNumber (c :: rest)
        match value with
        | .integer n =>
          if low ≤ n ∧ n < high then return (value, rest)
          else stopAt (.unfit (.invalidValue value.outline expected)) rest
        | value => stopAt (.unfit (.invalidType value.outline expected)) rest
      else mismatch fuel expected (c :: rest)
  | .choice words =>
    (scanChoice fuel depth words text).map fun (word, rest) => (.string word, rest)
  | _ => scanScalar fuel text

/-- What becomes of a member with a name. -/
inductive Treatment where
  | look (form : Form)
  /-- It has to be the given word. -/
  | compare (word : String)
  | pass

/-- What becomes of a member of a record. -/
def Record.treatment (record : Record Form) (name : String) : Treatment :=
  match record.members.lookup name with
  | some form => .look (if record.loose then .nullable form else form)
  | none =>
    match record.words.lookup name with
    | some word => .compare word
    | none => if record.looksAtAll then .look .anything else .pass

/-- The members of which there may be one only. -/
def Record.single (record : Record Form) : List String :=
  if record.loose then [] else record.members.map (·.1)

/-- Whether a member of an object counts as one of a record. -/
def Record.counts (record : Record Form) (value : Json) (name : String) : Bool :=
  match value.member? name with
  | some .null => !record.loose
  | some _ => true
  | none => false

/-- A record, as messages about its length have it. -/
def Record.expectedLength (record : Record Form) : String :=
  let n := record.members.length
  s!"{record.expected} with {n} element" ++ if n = 1 then "" else "s"

mutual

/-- A value of a form. Every step down costs one of `fuel`, and every list or object one of
`depth`. -/
def scanForm (fuel depth : Nat) (form : Form) (text : List Char) :
    Except Stop (Json × List Char) :=
  match fuel with
  | 0 => stopAt .valueEnds text
  | fuel + 1 =>
    let text := skipJsonBlanks text
    match form, text with
    | .nullable _, 'n' :: rest => (scanNull fuel "" ('n' :: rest)).map (.null, ·)
    | .nullable form, text => scanForm fuel depth form text
    | .anything, '[' :: rest =>
      descend depth text fun depth => scanList fuel depth .anything rest
    | .list form, '[' :: rest =>
      descend depth text fun depth => scanList fuel depth form rest
    | .list _, text => mismatch fuel "a sequence" text
    | .anything, '\x7b' :: rest =>
      descend depth text fun depth => do
        let (members, rest) ←
          scanMembers fuel depth (fun _ => .look .anything) [] true [] rest
        return (ofMembers members, rest)
    | .entries form, '\x7b' :: rest =>
      descend depth text fun depth => do
        let (members, rest) ← scanMembers fuel depth (fun _ => .look form) [] true [] rest
        return (ofMembers members, rest)
    | .entries _, text => mismatch fuel "a map" text
    | .record record, '\x7b' :: rest =>
      descend depth text fun depth => do
        let (members, rest) ←
          scanMembers fuel depth record.treatment record.single true [] rest
        let value := ofMembers members
        match record.required.find? (!record.counts value ·) with
        | some name => stopAt (.unfit (.missingField name)) rest
        | none => return (value, rest)
    | .record record, '[' :: rest =>
      match record.listUse with
      | .foreign => mismatch fuel record.expected text
      | .refused =>
        descend depth text fun _ =>
          stopAt (.unfit (.invalidType .sequence record.expected)) (leaveList rest)
      | .members needed =>
        descend depth text fun depth =>
          scanInOrder fuel depth record.members needed record.expectedLength 0 [] rest
    | .record record, text => mismatch fuel record.expected text
    | form, text => scanPlain fuel depth form text

/-- A list, from behind its opening bracket on. -/
def scanList (fuel depth : Nat) (form : Form) (text : List Char) :
    Except Stop (Json × List Char) :=
  (scanItems fuel depth form true [] text).map fun (items, rest) => (.array items, rest)

/-- The entries of a list after those in `read`, of which the last one comes first. -/
def scanItems (fuel depth : Nat) (form : Form) (first : Bool) (read : List Json)
    (text : List Char) : Except Stop (List Json × List Char) :=
  match fuel with
  | 0 => stopAt .valueEnds text
  | fuel + 1 =>
    match nextItem? first text with
    | .error stop => .error stop
    | .ok none => (afterList text).map (read.reverse, ·)
    | .ok (some text) =>
      match scanForm fuel depth form text with
      | .error stop => .error stop
      | .ok (item, rest) => scanItems fuel depth form false (item :: read) rest

/-- The entries of a list that are the members of a record, one after the other. -/
def scanInOrder (fuel depth : Nat) (members : List (String × Form)) (needed : List String)
    (expected : String) (count : Nat) (read : List Json) (text : List Char) :
    Except Stop (Json × List Char) :=
  match fuel, members with
  | 0, _ => stopAt .valueEnds text
  | _ + 1, [] => (afterList text).map (.array read.reverse, ·)
  | fuel + 1, (name, form) :: members =>
    match nextItem? (count = 0) text with
    | .error stop => .error stop
    | .ok none =>
      if needed.contains name then
        stopAt (.unfit (.invalidLength count expected)) (leaveList text)
      else scanInOrder fuel depth members needed expected (count + 1) read text
    | .ok (some text) =>
      match scanForm fuel depth form text with
      | .error stop => .error stop
      | .ok (item, rest) =>
        scanInOrder fuel depth members needed expected (count + 1) (item :: read) rest

/-- The members of an object after those in `read`, up to its closing bracket. The last one
that was read stands first. Those in `single` may be there once only. -/
def scanMembers (fuel depth : Nat) (treatment : String → Treatment) (single : List String)
    (first : Bool) (read : List (String × Json)) (text : List Char) :
    Except Stop (List (String × Json) × List Char) :=
  match fuel with
  | 0 => stopAt .valueEnds text
  | fuel + 1 =>
    match nextName? first text with
    | .error stop => .error stop
    | .ok none => .ok (read.reverse, leaveObject text)
    | .ok (some text) =>
      match scanString fuel [] text with
      | .error stop => .error stop
      | .ok (name, rest) =>
        if single.contains name && (read.lookup name).isSome then
          stopAt (.unfit (.duplicateField name)) (leaveObject rest)
        else
          match (afterColon rest).bind (scanMember fuel depth (treatment name)) with
          | .error stop => .error stop
          | .ok (value, rest) =>
            let read := match value with
              | some value => (name, value) :: read
              | none => read
            scanMembers fuel depth treatment single false read rest

/-- The value of a member, if it is looked at. -/
def scanMember (fuel depth : Nat) (treatment : Treatment) (text : List Char) :
    Except Stop (Option Json × List Char) :=
  match fuel with
  | 0 => stopAt .valueEnds text
  | fuel + 1 =>
    match treatment with
    | .look form => (scanForm fuel depth form text).map fun (value, rest) => (some value, rest)
    | .compare expected => do
      let (word, rest) ← scanText fuel "a string" text
      if word = expected then return (some (.string word), rest)
      else stopAt (.unfit (.invalidValue (.string word) expected)) (leaveObject rest)
    | .pass => (passValue fuel .value [] text).map (none, ·)

end

/-! ## Whole texts -/

/-- The line, counted from one, and the byte in it that stand behind some bytes of a text. -/
def lineAndColumn (line column : Nat) (bytes : Nat) : List Char → Nat × Nat
  | [] => (line, column)
  | c :: rest =>
    if bytes < c.utf8Size then (line, column + bytes)
    else if c = '\n' then lineAndColumn (line + 1) 0 (bytes - c.utf8Size) rest
    else lineAndColumn line (column + c.utf8Size) (bytes - c.utf8Size) rest

/-- The fault of a text that reading stops in. -/
def TextFault.ofStop (text : List Char) (stop : Stop) : TextFault :=
  let (line, column) := lineAndColumn 1 0 (byteSize text - stop.left) text
  ⟨stop.flaw, line, column⟩

/-- The value that a whole text is, of a form. Every step costs at least one character or is
followed by one that does after a few, so the fuel lasts. -/
def scanAll (form : Form) (text : List Char) : Except Stop Json := do
  let (value, rest) ← scanForm (8 * text.length + 16) greatestDepth form text
  match skipJsonBlanks rest with
  | [] => return value
  | rest => stopPast .restFollows rest

/-- The value of a form that a text is. -/
def ofText (form : Form) (text : String) : Except TextFault Json :=
  (scanAll form text.toList).mapError (TextFault.ofStop text.toList)

end ConfigFanout.Json
