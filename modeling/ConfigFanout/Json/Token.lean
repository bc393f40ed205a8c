import ConfigFanout.Json.Fault
import ConfigFanout.Json.Number

-- The smallest parts of JSON texts: blanks, strings, numbers and words. The grammar is the
-- strict one, with no comments and no bare control characters in strings. A string or a
-- number can be kept or passed over: what is passed over has to have the right form only,
-- and need not stand for anything.
namespace ConfigFanout.Json

/-- The number of bytes of a text. -/
def byteSize (text : List Char) : Nat :=
  text.foldl (fun size c => size + c.utf8Size) 0

/-- Where reading a text comes to an end: what is wrong, and how many bytes of the text are
left behind the place. -/
structure Stop where
  flaw : Flaw
  left : Nat
  deriving DecidableEq, Repr, Inhabited

/-- A way to read something at the start of a text. It gives what follows, too. -/
abbrev Scan (α : Type) := List Char → Except Stop (α × List Char)

section Stopping

variable {α : Type}

/-- Stops at the start of a text. -/
def stopAt (flaw : Flaw) (text : List Char) : Except Stop α :=
  .error ⟨flaw, byteSize text⟩

/-- Stops behind the first byte of a text, if it has one. -/
def stopPast (flaw : Flaw) (text : List Char) : Except Stop α :=
  .error ⟨flaw, byteSize text - 1⟩

end Stopping

/-- The blanks that may stand between the tokens. -/
def isJsonBlank (c : Char) : Bool :=
  c = ' ' || c = '\t' || c = '\n' || c = '\r'

/-- The text from its first character that is no blank. -/
def skipJsonBlanks (text : List Char) : List Char :=
  text.dropWhile isJsonBlank

/-! ## Words -/

/-- The text after the rest of a word. -/
def afterWord : List Char → List Char → Except Stop (List Char)
  | [], text => .ok text
  | _ :: _, [] => stopAt .valueEnds []
  | expected :: word, c :: rest =>
    if c = expected then afterWord word rest else stopPast .noWord (c :: rest)

/-- The text after one of the three words, without which there is no value. -/
def afterAnyWord : List Char → Except Stop (List Char)
  | 'n' :: rest => afterWord "ull".toList rest
  | 't' :: rest => afterWord "rue".toList rest
  | 'f' :: rest => afterWord "alse".toList rest
  | text => stopPast .noValue text

/-! ## Strings -/

/-- The number that four hexadecimal digits stand for. -/
def hexNumber? (digits : List Char) : Option Nat :=
  digits.foldlM (fun n c =>
    if '0' ≤ c ∧ c ≤ '9' then some (n * 16 + (c.toNat - 48))
    else if 'a' ≤ c ∧ c ≤ 'f' then some (n * 16 + (c.toNat - 87))
    else if 'A' ≤ c ∧ c ≤ 'F' then some (n * 16 + (c.toNat - 55))
    else none) 0

/-- The number of an escape, after its `u`. It takes four bytes, whatever they are. -/
def scanHex : Scan Nat
  | a :: b :: c :: d :: rest =>
    match hexNumber? [a, b, c, d] with
    | some n => .ok (n, rest)
    | none => .error ⟨.badEscape, byteSize (a :: b :: c :: d :: rest) - 4⟩
  | text =>
    if byteSize text < 4 then stopAt .stringEnds []
    else .error ⟨.badEscape, byteSize text - 4⟩

/-- The character that stands for itself after a backslash, or that its letter names. -/
def unescaped? (c : Char) : Option Char :=
  match c with
  | '"' | '\\' | '/' => some c
  | 'b' => some '\x08'
  | 'f' => some '\x0c'
  | 'n' => some '\n'
  | 'r' => some '\r'
  | 't' => some '\t'
  | _ => none

/-- Whether a number is the first half of a character beyond the first 65536. -/
def isHighHalf (n : Nat) : Bool :=
  0xd800 ≤ n && n < 0xdc00

/-- Whether a number is the second half of such a character. -/
def isLowHalf (n : Nat) : Bool :=
  0xdc00 ≤ n && n < 0xe000

/-- The second half of a character, after its first half. -/
def scanLowHalf : Scan Nat
  | '\\' :: 'u' :: rest => do
    let (low, rest) ← scanHex rest
    if isLowHalf low then return (low, rest) else stopAt .loneHalf rest
  | ['\\'] => stopAt .stringEnds []
  | '\\' :: rest => stopPast .cutHalf rest
  | [] => stopAt .stringEnds []
  | text => stopPast .cutHalf text

/-- The character that an escape stands for, after its backslash. -/
def scanEscape : Scan Char
  | [] => stopAt .stringEnds []
  | 'u' :: rest => do
    let (n, rest) ← scanHex rest
    if isLowHalf n then stopAt .loneHalf rest
    else if isHighHalf n then
      let (low, rest) ← scanLowHalf rest
      return (Char.ofNat (0x10000 + (n - 0xd800) * 0x400 + (low - 0xdc00)), rest)
    else return (Char.ofNat n, rest)
  | c :: rest =>
    match unescaped? c with
    | some c => .ok (c, rest)
    | none => stopPast .badEscape (c :: rest)

/-- The text after an escape that is passed over, from behind its backslash on. -/
def passEscape : List Char → Except Stop (List Char)
  | [] => stopAt .stringEnds []
  | 'u' :: rest => (scanHex rest).map (·.2)
  | c :: rest => if (unescaped? c).isSome then .ok rest else stopPast .badEscape (c :: rest)

/-- A string from behind its opening quote on, after the characters in `read`. Every
character or escape costs one of `fuel`. -/
def scanString (fuel : Nat) (read : List Char) (text : List Char) :
    Except Stop (String × List Char) :=
  match fuel, text with
  | 0, text => stopAt .stringEnds text
  | _ + 1, [] => stopAt .stringEnds []
  | _ + 1, '"' :: rest => .ok (String.ofList read.reverse, rest)
  | fuel + 1, '\\' :: rest =>
    match scanEscape rest with
    | .ok (c, rest) => scanString fuel (c :: read) rest
    | .error stop => .error stop
  | fuel + 1, c :: rest =>
    if c.toNat < 0x20 then stopPast .controlCharacter (c :: rest)
    else scanString fuel (c :: read) rest

/-- The text after a string that is passed over, from behind its opening quote on. -/
def passString (fuel : Nat) (text : List Char) : Except Stop (List Char) :=
  match fuel, text with
  | 0, text => stopAt .stringEnds text
  | _ + 1, [] => stopAt .stringEnds []
  | _ + 1, '"' :: rest => .ok rest
  | fuel + 1, '\\' :: rest =>
    match passEscape rest with
    | .ok rest => passString fuel rest
    | .error stop => .error stop
  | fuel + 1, c :: rest =>
    if c.toNat < 0x20 then stopAt .controlCharacter (c :: rest) else passString fuel rest

/-! ## Numbers -/

/-- One digit or more. Where the text ends before the first, that is the flaw `atEnd`. -/
def scanDigits (atEnd : Flaw) : Scan (List Char)
  | [] => stopAt atEnd []
  | c :: rest =>
    if c.isDigit then .ok ((c :: rest).takeWhile Char.isDigit, rest.dropWhile Char.isDigit)
    else stopPast .badNumber (c :: rest)

/-- The digits before the point. A zero stands alone. -/
def scanWhole (atEnd : Flaw) (text : List Char) : Except Stop (List Char × List Char) := do
  let (digits, rest) ← scanDigits atEnd text
  match digits with
  | '0' :: _ :: _ => stopPast .badNumber (text.drop 1)
  | digits => return (digits, rest)

/-- The digits after a point, if there is one. -/
def scanFraction (atEnd : Flaw) : Scan (Option (List Char))
  | '.' :: rest => do
    let (digits, rest) ← scanDigits atEnd rest
    return (some digits, rest)
  | text => .ok (none, text)

/-- The sign of an exponent: whether it is a minus. -/
def scanSign : List Char → Bool × List Char
  | '-' :: rest => (true, rest)
  | '+' :: rest => (false, rest)
  | text => (false, text)

/-- The exponent, if there is one. -/
def scanExponent (atEnd : Flaw) : Scan (Option Exponent)
  | [] => .ok (none, [])
  | c :: rest =>
    if c = 'e' ∨ c = 'E' then do
      let (negative, rest) := scanSign rest
      let (digits, rest) ← scanDigits atEnd rest
      return (some ⟨negative, digits⟩, rest)
    else .ok (none, c :: rest)

/-- A number as it is written. -/
def scanNumeral (atEnd : Flaw) (text : List Char) : Except Stop (Numeral × List Char) := do
  let (negative, text) := match text with
    | '-' :: rest => (true, rest)
    | text => (false, text)
  let (whole, rest) ← scanWhole atEnd text
  let (fraction, rest) ← scanFraction atEnd rest
  let (exponent, rest) ← scanExponent atEnd rest
  return ({ negative, whole, fraction, exponent }, rest)

/-- A number. One that is too great is known to be so at its end, or as soon as its exponent
is. -/
def scanNumber (text : List Char) : Except Stop (Json × List Char) := do
  let (numeral, rest) ← scanNumeral .valueEnds text
  match numeral.value? with
  | some value => return (value, rest)
  | none =>
    let needless := (numeral.exponent.map Exponent.needless).getD 0
    .error ⟨.tooGreat, byteSize rest + needless⟩

/-- The text after a number that is passed over. -/
def passNumber (text : List Char) : Except Stop (List Char) :=
  (scanNumeral .badNumber text).map (·.2)

/-! ## Scalars -/

/-- Whether a number can begin with a character. -/
def beginsNumber (c : Char) : Bool :=
  c = '-' || c.isDigit

/-- A value that is neither a list nor an object, after blanks. -/
def scanScalar (fuel : Nat) (text : List Char) : Except Stop (Json × List Char) :=
  match skipJsonBlanks text with
  | [] => stopAt .valueEnds []
  | '"' :: rest => (scanString fuel [] rest).map fun (text, rest) => (.string text, rest)
  | 'n' :: rest => (afterWord "ull".toList rest).map (.null, ·)
  | 't' :: rest => (afterWord "rue".toList rest).map (.bool true, ·)
  | 'f' :: rest => (afterWord "alse".toList rest).map (.bool false, ·)
  | c :: rest => if beginsNumber c then scanNumber (c :: rest) else stopPast .noValue (c :: rest)

/-- The text after such a value that is passed over. -/
def passScalar (fuel : Nat) (text : List Char) : Except Stop (List Char) :=
  match skipJsonBlanks text with
  | [] => stopAt .valueEnds []
  | '"' :: rest => passString fuel rest
  | c :: rest =>
    if beginsNumber c then passNumber (c :: rest) else afterAnyWord (c :: rest)

end ConfigFanout.Json
