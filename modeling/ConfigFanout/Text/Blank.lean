-- White space as the property White_Space has it: far more than the ASCII blanks,
-- and less than everything that looks empty.
namespace ConfigFanout.Text

/-- The runs of code points with the property White_Space. -/
def blankRanges : List (Nat × Nat) :=
  [(0x9, 0xd), (0x20, 0x20), (0x85, 0x85), (0xa0, 0xa0), (0x1680, 0x1680), (0x2000, 0x200a),
   (0x2028, 0x2029), (0x202f, 0x202f), (0x205f, 0x205f), (0x3000, 0x3000)]

/-- A white space character. -/
def isBlank (c : Char) : Bool :=
  blankRanges.any fun run => run.1 ≤ c.toNat && c.toNat ≤ run.2

/-- The text after its leading white space. -/
def skipBlanks (text : List Char) : List Char :=
  text.dropWhile isBlank

end ConfigFanout.Text
