import ConfigFanout.Json.Basic

-- The numbers in JSON texts. A number without a fraction and an exponent is an integer if
-- 64 bits hold it, with a sign or without; every other number is a decimal.
namespace ConfigFanout.Json

/-- A power of ten, as it is written after an `e`. -/
structure Exponent where
  negative : Bool
  digits : List Char

/-- A number, as it is written. -/
structure Numeral where
  negative : Bool
  whole : List Char
  fraction : Option (List Char)
  exponent : Option Exponent

/-- Appends digits to a number as long as it stays below a limit, and gives the digits that
are left over. -/
def appendDigits (limit n : Nat) : List Char → Nat × List Char
  | [] => (n, [])
  | c :: rest =>
    let next := n * 10 + (c.toNat - 48)
    if next < limit then appendDigits limit next rest else (n, c :: rest)

namespace Exponent

/-- A power of ten that is greater than all that make a difference. -/
def limit : Nat := Nat.pow 2 31

/-- The number that the exponent is, if it is below the limit, or else the limit. -/
def value (exponent : Exponent) : Int :=
  let (n, rest) := appendDigits limit 0 exponent.digits
  let size := if rest.isEmpty then n else limit
  if exponent.negative then -size else size

/-- How many digits follow the one with which the exponent reaches the limit. -/
def needless (exponent : Exponent) : Nat :=
  (appendDigits limit 0 exponent.digits).2.length - 1

end Exponent

namespace Numeral

/-- The decimal for a number. The digits that a number of 64 bits has no room for are
dropped, before the point for a power of ten each. There is none if it is too great. -/
def decimal? (numeral : Numeral) : Option Json :=
  let fraction := numeral.fraction.getD []
  let exponent := (numeral.exponent.map Exponent.value).getD 0
  let (n, wholeRest) := appendDigits (Nat.pow 2 64) 0 numeral.whole
  let (n, fractionRest) := appendDigits (Nat.pow 2 64) n fraction
  let shift : Int := wholeRest.length + fractionRest.length - fraction.length
  (Binary64.ofDecimal? numeral.negative n (shift + exponent)).map .decimal

/-- The value of a number, if it is not too great. -/
def value? (numeral : Numeral) : Option Json :=
  let (n, rest) := appendDigits (Nat.pow 2 64) 0 numeral.whole
  if numeral.fraction.isNone && numeral.exponent.isNone && rest.isEmpty then
    if !numeral.negative then some (.integer n)
    else if 0 < n && n ≤ Nat.pow 2 63 then some (.integer (-n))
    else numeral.decimal?
  else numeral.decimal?

end Numeral

end ConfigFanout.Json
