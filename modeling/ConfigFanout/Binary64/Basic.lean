-- Floating-point numbers of 64 bits: 53 binary digits times a power of two. Every operation
-- is exact on whole numbers first and rounded once, to the nearest such number, and halfway
-- to the one whose last digit is even.
namespace ConfigFanout

/-- A number that is not negative: `significand * 2 ^ exponent`. -/
structure Magnitude where
  significand : Nat
  exponent : Int
  deriving DecidableEq, Repr, Inhabited

namespace Magnitude

def leastExponent : Int := -1074

def greatestExponent : Int := 971

def zero : Magnitude := ⟨0, leastExponent⟩

def numerator (value : Magnitude) : Nat :=
  value.significand * Nat.pow 2 value.exponent.toNat

def denominator (value : Magnitude) : Nat :=
  Nat.pow 2 (-value.exponent).toNat

/-- How often `denominator` goes into `numerator`, to the nearest whole number. -/
def roundedQuotient (numerator denominator : Nat) : Nat :=
  let quotient := numerator / denominator
  let twice := 2 * (numerator % denominator)
  if denominator < twice ∨ (denominator = twice ∧ quotient % 2 = 1) then quotient + 1
  else quotient

/-- A fraction in units of `2 ^ exponent`, as a fraction. -/
def inUnits (numerator denominator : Nat) (exponent : Int) : Nat × Nat :=
  (numerator * Nat.pow 2 (-exponent).toNat, denominator * Nat.pow 2 exponent.toNat)

/-- The exponent with which a fraction has 53 binary digits, or the least one if it is too
small for so many. -/
def exponentFor (numerator denominator : Nat) : Int :=
  let guess : Int := numerator.log2 - denominator.log2 - 53
  let (n, d) := inUnits numerator denominator guess
  max leastExponent (if n / d < Nat.pow 2 53 then guess else guess + 1)

/-- The number nearest to a fraction. There is none if the fraction is too great. -/
def nearest? (numerator denominator : Nat) : Option Magnitude :=
  let exponent := exponentFor numerator denominator
  let (n, d) := inUnits numerator denominator exponent
  let significand := roundedQuotient n d
  let value : Magnitude :=
    if significand < Nat.pow 2 53 then ⟨significand, exponent⟩
    else ⟨Nat.pow 2 52, exponent + 1⟩
  if value.exponent ≤ greatestExponent then some value else none

/-- The product of two numbers. -/
def times? (a b : Magnitude) : Option Magnitude :=
  nearest? (a.numerator * b.numerator) (a.denominator * b.denominator)

/-- The quotient of two numbers, the second of which is not zero. -/
def over? (a b : Magnitude) : Option Magnitude :=
  nearest? (a.numerator * b.denominator) (a.denominator * b.numerator)

def greatestPower : Nat := 308

/-- A power of ten. -/
def powerOfTen? (exponent : Nat) : Option Magnitude :=
  nearest? (Nat.pow 10 exponent) 1

/-- The number times a power of ten. -/
def scaledUp? (value : Magnitude) (exponent : Nat) : Option Magnitude :=
  if exponent ≤ greatestPower then (powerOfTen? exponent).bind value.times?
  else if value.significand = 0 then some zero
  else none

/-- The number over the greatest power of ten, some times. Once it is zero it stays so. -/
def overGreatest? (value : Magnitude) : Nat → Option Magnitude
  | 0 => some value
  | times + 1 =>
    if value.significand = 0 then some zero
    else ((powerOfTen? greatestPower).bind value.over?).bind fun smaller =>
      smaller.overGreatest? times

/-- The number over a power of ten, in steps if the power is too great for one. -/
def scaledDown? (value : Magnitude) (exponent : Nat) : Option Magnitude := do
  let times := (exponent - 1) / greatestPower
  let smaller ← value.overGreatest? times
  let power ← powerOfTen? (exponent - greatestPower * times)
  smaller.over? power

end Magnitude

/-- A number with a sign. Zero has one too. -/
structure Binary64 where
  negative : Bool
  magnitude : Magnitude
  deriving DecidableEq, Repr, Inhabited

namespace Binary64

/-- The number for `digits * 10 ^ exponent`. Digits and power are rounded apart from each
other and their product or quotient once more, so it is near and need not be the nearest. -/
def ofDecimal? (negative : Bool) (digits : Nat) (exponent : Int) : Option Binary64 := do
  let value ← Magnitude.nearest? digits 1
  let scaled ← if exponent < 0 then value.scaledDown? exponent.natAbs
    else value.scaledUp? exponent.natAbs
  return ⟨negative, scaled⟩

end Binary64

end ConfigFanout
