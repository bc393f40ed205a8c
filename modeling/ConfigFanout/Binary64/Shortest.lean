import ConfigFanout.Binary64.Basic

-- Decimal texts of floating-point numbers: the fewest digits that are read back as the same
-- number, and of those the nearest to it.
namespace ConfigFanout

namespace Magnitude

/-- The whole multiple of `10 ^ grid` that is read back as the number. Such multiples lie
between the midpoints to the two neighbours of the number, and the midpoints count if its
last binary digit is even. Of two the nearer one is taken, and halfway the even one. -/
def onGrid? (value : Magnitude) (grid : Int) : Option Nat :=
  let quarter := value.exponent - 2
  let step := Nat.pow 10 grid.toNat * Nat.pow 2 (-quarter).toNat
  let unit := Nat.pow 2 quarter.toNat * Nat.pow 10 (-grid).toNat
  let exact := 4 * value.significand * unit
  let gap := if value.significand = Nat.pow 2 52 ∧ leastExponent < value.exponent then 1 else 2
  let low := exact - gap * unit
  let high := exact + 2 * unit
  let fits (n : Nat) : Bool :=
    if value.significand % 2 = 0 then low ≤ n * step && n * step ≤ high
    else low < n * step && n * step < high
  let below := exact / step
  match fits below, fits (below + 1) with
  | true, false => some below
  | false, true => some (below + 1)
  | false, false => none
  | true, true => some (roundedQuotient exact step)

/-- The first grid on which the number can be written, among `count` grids from a coarse one
on, each ten times finer than the one before, with the multiple there. -/
def firstGrid (value : Magnitude) : Nat → Int → Nat × Int
  | 0, grid => (0, grid)
  | count + 1, grid =>
    match value.onGrid? grid with
    | some n => (n, grid)
    | none => value.firstGrid count (grid - 1)

/-- The shortest decimal form of a number that is not zero: digits and the power of ten they
are multiples of. The search starts above the first digit of the number, which is found from
its binary logarithm, and has room for 17 digits and more. -/
def shortest (value : Magnitude) : Nat × Int :=
  let log2 : Int := value.significand.log2 + value.exponent
  value.firstGrid 20 (log2 * 30103 / 100000 + 2)

end Magnitude

namespace Binary64

/-- The digits with the point after `point` of them, or the power of ten by itself where the
point would stand more than 16 digits behind the first one, or five or more zeros would stand
between the point and it. A whole number ends in one zero after the point. -/
def layout (digits : List Char) (point : Int) : List Char :=
  let zeros (n : Int) : List Char := List.replicate n.toNat '0'
  let exponent := point - 1
  if digits.length ≤ point ∧ point ≤ 16 then
    digits ++ zeros (point - digits.length) ++ ['.', '0']
  else if 0 < point ∧ point ≤ 16 then
    digits.take point.toNat ++ '.' :: digits.drop point.toNat
  else if -5 < point ∧ point ≤ 0 then
    '0' :: '.' :: zeros (-point) ++ digits
  else
    let fraction := match digits.drop 1 with
      | [] => []
      | rest => '.' :: rest
    let sign := if exponent < 0 then '-' else '+'
    digits.take 1 ++ fraction ++ 'e' :: sign :: Nat.toDigits 10 exponent.natAbs

def text (value : Binary64) : String :=
  let sign := if value.negative then ['-'] else []
  let unsigned :=
    if value.magnitude.significand = 0 then ['0', '.', '0']
    else
      let (n, grid) := value.magnitude.shortest
      let digits := Nat.toDigits 10 n
      layout digits (digits.length + grid)
  String.ofList (sign ++ unsigned)

end Binary64

end ConfigFanout
