import ConfigFanout.Text.Blank
import ConfigFanout.Timestamp.Basic

-- Reading points in time. The form is that of RFC 3339, and wider: numbers may lack their
-- leading zeros, white space may stand around the parts, a year may have a sign and any
-- number of digits, and UTC may be written as `Z` or `UTC`.
namespace ConfigFanout.Timestamp

/-- Why a text is no point in time. -/
inductive Fault where
  /-- A number is not one that its part may have. -/
  | outOfRange
  /-- The time in UTC is beyond the limits. -/
  | impossible
  /-- A character is not one that may stand there. -/
  | invalid
  /-- The text ends too soon. -/
  | tooShort
  /-- The text goes on. -/
  | tooLong
  deriving DecidableEq, Repr, Inhabited

def Fault.message : Fault → String
  | .outOfRange => "input is out of range"
  | .impossible => "no possible date and time matching input"
  | .invalid => "input contains invalid characters"
  | .tooShort => "premature end of input"
  | .tooLong => "trailing input"

/-- A way to read something at the start of a text. It gives what follows, too. -/
abbrev Part (α : Type) := List Char → Except Fault (α × List Char)

/-- The number that some digits are. -/
def number (digits : List Char) : Nat :=
  digits.foldl (fun n c => n * 10 + (c.toNat - 48)) 0

/-- A number of one to `most` digits. -/
def parseDigits (most : Nat) : Part Nat
  | [] => .error .tooShort
  | c :: rest =>
    if c.isDigit then
      let digits := ((c :: rest).takeWhile Char.isDigit).take most
      .ok (number digits, (c :: rest).drop digits.length)
    else .error .invalid

/-- A number of one or two digits within limits, after white space. -/
def parsePart (least most : Nat) (text : List Char) : Except Fault (Nat × List Char) := do
  let (n, rest) ← parseDigits 2 (Text.skipBlanks text)
  if least ≤ n ∧ n ≤ most then return (n, rest) else throw .outOfRange

/-- A year: up to four digits, or a sign and any number of them. Years have 32 bits. -/
def parseYear (text : List Char) : Except Fault (Int × List Char) := do
  let (year, rest) ← match Text.skipBlanks text with
    | '-' :: rest => (parseDigits rest.length rest).map fun (n, rest) => (-(n : Int), rest)
    | '+' :: rest => (parseDigits rest.length rest).map fun (n, rest) => ((n : Int), rest)
    | rest => (parseDigits 4 rest).map fun (n, rest) => ((n : Int), rest)
  if -Int.pow 2 31 ≤ year ∧ year < Int.pow 2 31 then return (year, rest) else throw .outOfRange

/-- The text after a sign that may have white space before it. -/
def afterSign (sign : Char) (text : List Char) : Except Fault (List Char) :=
  match Text.skipBlanks text with
  | c :: rest => if c = sign then .ok rest else .error .invalid
  | [] => .error .tooShort

/-- The text after the letter or the blank between date and time. -/
def afterDate (text : List Char) : Except Fault (List Char) :=
  match text with
  | c :: rest => if c = 'T' ∨ c = 't' ∨ c = ' ' then .ok rest else .error .invalid
  | [] => .error .tooShort

/-- The nanoseconds of a fraction of a second, none if there is no fraction. The digits after
the ninth count for nothing. -/
def parseFraction (text : List Char) : Except Fault (Nat × List Char) :=
  match text with
  | '.' :: digits => do
    let (n, rest) ← parseDigits 9 digits
    let scale := Nat.pow 10 (9 - (digits.length - rest.length))
    return (n * scale, rest.dropWhile Char.isDigit)
  | rest => .ok (0, rest)

/-- A number of two digits. -/
def parsePair : Part Nat
  | c :: d :: rest =>
    if c.isDigit ∧ d.isDigit then .ok (number [c, d], rest) else .error .invalid
  | [c] => .error (if c.utf8Size = 1 then .tooShort else .invalid)
  | [] => .error .tooShort

/-- The sign of an offset: whether the clock runs behind UTC. -/
def parseSign : Part Bool
  | c :: rest =>
    if c = '+' then .ok (false, rest)
    else if c = '-' ∨ c = '\u2212' then .ok (true, rest)
    else .error .invalid
  | [] => .error .tooShort

/-- How many minutes a clock runs ahead of UTC, as hours and minutes of two digits each with
a sign. Colons and white space may stand between the two. -/
def parseNumericOffset (text : List Char) : Except Fault (Int × List Char) := do
  let (behind, rest) ← parseSign text
  let (hours, rest) ← parsePair rest
  let (minutes, rest) ← parsePair (rest.dropWhile fun c => c = ':' || Text.isBlank c)
  if 60 ≤ minutes then throw .outOfRange
  else
    let ahead : Int := hours * 60 + minutes
    return (if behind then -ahead else ahead, rest)

/-- How many minutes a clock runs ahead of UTC. There are words for UTC itself. -/
def parseOffset (text : List Char) : Except Fault (Int × List Char) :=
  match text with
  | 'Z' :: rest | 'z' :: rest => .ok (0, rest)
  | u :: t :: c :: rest =>
    if u.toUpper = 'U' ∧ t.toUpper = 'T' ∧ c.toUpper = 'C' then .ok (0, rest)
    else parseNumericOffset (u :: t :: c :: rest)
  | text => parseNumericOffset text

/-- The point in time at which a clock that runs ahead of UTC by some minutes shows a date and
a time of day. -/
def ofClock (year : Int) (month day hour minute second nanosecond : Nat) (ahead : Int) :
    Except Fault Timestamp :=
  match CalendarDate.ofParts? year month day with
  | none => .error .outOfRange
  | some date =>
    if h : hour < 24 ∧ minute < 60 ∧ second < 61 ∧ nanosecond < 1000000000 then
      if shown : date.isWithinLimits = true ∧ ahead.natAbs < 1440 then
        let time : Timestamp :=
          ⟨date, ⟨hour, h.1⟩, ⟨minute, h.2.1⟩, ⟨second, h.2.2.1⟩, ⟨nanosecond, h.2.2.2⟩, shown.1⟩
        match toUtc time ahead with
        | some time => .ok time
        | none => .error .impossible
      else .error .outOfRange
    else .error .outOfRange

/-- The point in time that a text stands for. -/
def parse (text : String) : Except Fault Timestamp := do
  let (year, rest) ← parseYear text.toList
  let (month, rest) ← parsePart 1 12 (← afterSign '-' rest)
  let (day, rest) ← parsePart 1 31 (← afterSign '-' rest)
  let (hour, rest) ← parsePart 0 23 (← afterDate rest)
  let (minute, rest) ← parsePart 0 59 (← afterSign ':' rest)
  let (second, rest) ← parsePart 0 60 (← afterSign ':' rest)
  let (nanosecond, rest) ← parseFraction rest
  let (ahead, rest) ← parseOffset (Text.skipBlanks rest)
  if (Text.skipBlanks rest).isEmpty then
    ofClock year month day hour minute second nanosecond ahead
  else throw .tooLong

end ConfigFanout.Timestamp
