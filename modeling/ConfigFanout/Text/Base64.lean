import ConfigFanout.Text.Bytes

-- The standard base64 alphabet with padding. Three bytes are four digits; one or two
-- bytes left over are padded to four, and the bits that the padding leaves open are zero.
-- `decode` takes the texts that `encode` writes and no others.
namespace ConfigFanout.Text.Base64

/-- The digit for a number below 64. -/
def digit (n : Nat) : Char :=
  if n < 26 then Char.ofNat (n + 65)
  else if n < 52 then Char.ofNat (n + 71)
  else if n < 62 then Char.ofNat (n - 4)
  else if n = 62 then '+'
  else '/'

/-- The number that a digit stands for. -/
def value? (c : Char) : Option Nat :=
  if 'A' ≤ c ∧ c ≤ 'Z' then some (c.toNat - 65)
  else if 'a' ≤ c ∧ c ≤ 'z' then some (c.toNat - 71)
  else if '0' ≤ c ∧ c ≤ '9' then some (c.toNat + 4)
  else if c = '+' then some 62
  else if c = '/' then some 63
  else none

/-- The base64 text of some bytes. -/
def encode : Bytes → List Char
  | [] => []
  | [a] => [digit (a.toNat / 4), digit (a.toNat % 4 * 16), '=', '=']
  | [a, b] =>
    [digit (a.toNat / 4), digit (a.toNat % 4 * 16 + b.toNat / 16), digit (b.toNat % 16 * 4), '=']
  | a :: b :: c :: rest =>
    digit (a.toNat / 4) :: digit (a.toNat % 4 * 16 + b.toNat / 16) ::
      digit (b.toNat % 16 * 4 + c.toNat / 64) :: digit (c.toNat % 64) :: encode rest

/-- The bytes that a base64 text stands for. -/
def decode? : List Char → Option Bytes
  | [] => some []
  | [w, x, '=', '='] => do
    let w ← value? w
    let x ← value? x
    if x % 16 = 0 then some [UInt8.ofNat (w * 4 + x / 16)] else none
  | [w, x, y, '='] => do
    let w ← value? w
    let x ← value? x
    let y ← value? y
    if y % 4 = 0 then
      some [UInt8.ofNat (w * 4 + x / 16), UInt8.ofNat (x % 16 * 16 + y / 4)]
    else
      none
  | w :: x :: y :: z :: rest => do
    let w ← value? w
    let x ← value? x
    let y ← value? y
    let z ← value? z
    let bytes ← decode? rest
    some (UInt8.ofNat (w * 4 + x / 16) :: UInt8.ofNat (x % 16 * 16 + y / 4) ::
      UInt8.ofNat (y % 4 * 64 + z) :: bytes)
  | _ => none

/-! ## What is wrong with other texts -/

/-- What is wrong with a text that is not base64. -/
inductive Fault where
  /-- A byte is no digit and no padding, or padding stands where it may not. -/
  | symbol (byte : UInt8) (offset : Nat)
  /-- So many bytes are no whole number of bytes in base64. -/
  | length (size : Nat)
  /-- The last digit says something about bits that the padding leaves open. -/
  | lastSymbol (byte : UInt8) (offset : Nat)
  /-- There is too little padding. -/
  | padding
  deriving DecidableEq, Repr, Inhabited

def Fault.message : Fault → String
  | .symbol byte offset => s!"Invalid symbol {byte.toNat}, offset {offset}."
  | .length size => s!"Invalid input length: {size}"
  | .lastSymbol byte offset => s!"Invalid last symbol {byte.toNat}, offset {offset}."
  | .padding => "Invalid padding"

def pad : UInt8 := 61

/-- Whether a byte is a digit. -/
def isDigit (byte : UInt8) : Bool :=
  (value? (Char.ofNat byte.toNat)).isSome

/-- The first byte that is no digit, if there is one. -/
def strayByte? (bytes : Bytes) : Option Fault :=
  (bytes.findIdx? fun byte => !isDigit byte).map fun offset =>
    .symbol (bytes.getD offset 0) offset

/-- The fault in the last four bytes or fewer of a text of which the first `size` bytes are
digits. Padding may follow two digits or three, and nothing may follow padding. -/
def lastFault (size : Nat) (bytes : Bytes) : Fault :=
  let digits := bytes.takeWhile isDigit
  let rest := bytes.drop digits.length
  let padding := rest.takeWhile (· = pad)
  match rest.drop padding.length with
  | byte :: _ =>
    if padding.isEmpty then .symbol byte (size + digits.length)
    else .symbol pad (size + digits.length)
  | [] =>
    if digits.length < 2 then
      if padding.isEmpty then .length (size + digits.length)
      else .symbol pad (size + digits.length)
    else if (digits.length + padding.length) % 4 ≠ 0 then .padding
    else .lastSymbol (digits.getLastD 0) (size + digits.length - 1)

/-- The fault of a text that `decode?` refuses. A stray byte that stands alone after groups of
four is noticed first, as it may have come there unseen. -/
def fault (text : Bytes) : Fault :=
  let surplus := text.length % 4
  let size := text.length - if surplus = 0 then 4 else surplus
  match text.getLast? with
  | some byte =>
    if surplus = 1 ∧ byte ≠ pad ∧ !isDigit byte then .symbol byte (text.length - 1)
    else (strayByte? (text.take size)).getD (lastFault size (text.drop size))
  | none => .length 0

/-! ## Laws -/

/-- Every digit stands for its own number. -/
theorem value?_digit {n : Nat} (h : n < 64) : value? (digit n) = some n := by
  have all : ∀ n : Fin 64, value? (digit n) = some n.val := by decide
  exact all ⟨n, h⟩

theorem digit_ne_pad {n : Nat} (h : n < 64) : digit n ≠ '=' := by
  have all : ∀ n : Fin 64, digit n ≠ '=' := by decide
  exact all ⟨n, h⟩

theorem ofNat_eq {n : Nat} {b : UInt8} (h : n = b.toNat) : UInt8.ofNat n = b := by
  rw [h, UInt8.ofNat_toNat]

/-- What was written reads back. -/
theorem decode?_encode (bytes : Bytes) : decode? (encode bytes) = some bytes := by
  fun_induction encode bytes with
  | case1 => rfl
  | case2 a =>
    have ha := a.toNat_lt
    simp [-UInt8.ofNat_add, -UInt8.ofNat_mul, decode?, value?_digit (n := a.toNat / 4) (by omega),
      value?_digit (n := a.toNat % 4 * 16) (by omega)]
    exact ofNat_eq (by omega)
  | case3 a b =>
    have ha := a.toNat_lt
    have hb := b.toNat_lt
    have hpad := digit_ne_pad (n := b.toNat % 16 * 4) (by omega)
    simp [-UInt8.ofNat_add, -UInt8.ofNat_mul, decode?, value?_digit (n := a.toNat / 4) (by omega),
      value?_digit (n := a.toNat % 4 * 16 + b.toNat / 16) (by omega),
      value?_digit (n := b.toNat % 16 * 4) (by omega)]
    exact ⟨ofNat_eq (by omega), ofNat_eq (by omega)⟩
  | case4 a b c rest ih =>
    have ha := a.toNat_lt
    have hb := b.toNat_lt
    have hc := c.toNat_lt
    have hpad := digit_ne_pad (n := c.toNat % 64) (by omega)
    simp [-UInt8.ofNat_add, -UInt8.ofNat_mul, decode?, value?_digit (n := a.toNat / 4) (by omega),
      value?_digit (n := a.toNat % 4 * 16 + b.toNat / 16) (by omega),
      value?_digit (n := b.toNat % 16 * 4 + c.toNat / 64) (by omega),
      value?_digit (n := c.toNat % 64) (by omega), hpad, ih]
    exact ⟨ofNat_eq (by omega), ofNat_eq (by omega), ofNat_eq (by omega)⟩

end ConfigFanout.Text.Base64
