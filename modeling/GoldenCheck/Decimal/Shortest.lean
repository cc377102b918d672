import GoldenCheck.Decimal.Binary64

/-!
# The shortest decimal of a floating-point number

A finite number is written with the fewest digits that read back as the same
number; of several such decimals the nearest is taken, and the upper one of two
that are equally near.  The numeral is always positional and always has a point.
-/

namespace GoldenCheck.Decimal.Binary64

/-- The reals that are rounded to `mantissa * 2 ^ exponent`, from below and from
above.  The gap below a power of two is half as wide. -/
def bounds (mantissa : Nat) (exponent : Int) : Ratio × Ratio :=
  let above := (Ratio.mk (2 * mantissa + 1) 1).scale 2 (exponent - 1)
  if mantissa = 1 <<< 52 ∧ leastExponent < exponent then
    ((Ratio.mk (4 * mantissa - 1) 1).scale 2 (exponent - 2), above)
  else
    ((Ratio.mk (2 * mantissa - 1) 1).scale 2 (exponent - 1), above)

/-- Whether a real is rounded to `mantissa * 2 ^ exponent`.  The ends of the
interval belong to an even mantissa. -/
def readsBack (mantissa : Nat) (exponent : Int) (ratio : Ratio) : Bool :=
  let (low, high) := bounds mantissa exponent
  if mantissa % 2 = 0 then
    low.atMost ratio && ratio.atMost high
  else
    low.below ratio && ratio.below high

/-- The least power of ten above a positive quotient. -/
def decimalSize (ratio : Ratio) : Int :=
  match (List.range 800).find? fun (index : Nat) =>
      ratio.below ((Ratio.mk 1 1).scale 10 ((index : Int) - 400)) with
  | some index => (index : Int) - 400
  | none => 400

/-- The nearest whole number, a tie going to the upper one. -/
def halfUp (ratio : Ratio) : Nat :=
  (2 * ratio.numerator + ratio.denominator) / (2 * ratio.denominator)

/-- The best decimal on one grid: a whole number of units of `10 ^ power` that
reads back, the nearer of the two neighbours if both do. -/
def onGrid (mantissa : Nat) (exponent power : Int) : Option Nat :=
  let value := (Ratio.mk mantissa 1).scale 2 exponent
  let units := value.scale 10 (-power)
  let low := units.numerator / units.denominator
  let reads := fun (digits : Nat) =>
    readsBack mantissa exponent ((Ratio.mk digits 1).scale 10 power)
  let nearer := halfUp units
  if nearer ≠ 0 ∧ reads nearer then some nearer
  else if low ≠ 0 ∧ reads low then some low
  else if reads (low + 1) then some (low + 1)
  else none

/-- The decimal `digits * 10 ^ power` without zeros at the end of its digits. -/
def trimZeros (digits : Nat) (power : Int) : Nat × Int :=
  if h : digits ≠ 0 ∧ digits % 10 = 0 then
    trimZeros (digits / 10) (power + 1)
  else
    (digits, power)
termination_by digits
decreasing_by omega

/-- The shortest decimal of a positive number as digits and a power of ten.  The
nearest decimal on a grid may be the next power of ten, which needs fewer digits
than the grid has. -/
def shortest (mantissa : Nat) (exponent : Int) : Nat × Int :=
  let size := decimalSize ((Ratio.mk mantissa 1).scale 2 exponent)
  match (List.range 17).findSome? fun (count : Nat) =>
      let power := size - ((count : Int) + 1)
      (onGrid mantissa exponent power).map fun digits => trimZeros digits power with
  | some result => result
  | none => (0, 0)

/-- The positional numeral of `digits * 10 ^ power`, with a point. -/
def positional (digits : Nat) (power : Int) : Text :=
  let numeral := Text.decimal digits
  if 0 ≤ power then
    Text.cat [numeral, if digits = 0 then [] else List.replicate power.toNat '0', ".0"]
  else
    let places := (-power).toNat
    let padded := List.replicate (places + 1 - numeral.length) '0' ++ numeral
    Text.cat [padded.take (padded.length - places), ".", padded.drop (padded.length - places)]

/-- The sign of a number. -/
def sign (negative : Bool) : Text :=
  if negative then ['-'] else []

/-- A floating-point number as messages show it. -/
def display : Binary64 → Text
  | .nan => "NaN"
  | .infinite negative => sign negative ++ "inf"
  | .finite negative mantissa exponent =>
      if mantissa = 0 then
        sign negative ++ "0.0"
      else
        let (digits, power) := shortest mantissa exponent
        sign negative ++ positional digits power

end GoldenCheck.Decimal.Binary64
