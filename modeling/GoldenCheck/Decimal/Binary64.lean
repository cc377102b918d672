import GoldenCheck.Text.Numeral

/-!
# Floating-point numbers

A finite number of 64 bits is `mantissa * 2 ^ exponent` with a mantissa of at most
53 bits.  A decimal numeral denotes the number nearest to it, a tie going to the
even mantissa.  All arithmetic here is exact.
-/

namespace GoldenCheck.Decimal

/-- A floating-point number of 64 bits. -/
inductive Binary64 where
  | finite (negative : Bool) (mantissa : Nat) (exponent : Int)
  | infinite (negative : Bool)
  | nan
  deriving DecidableEq

/-- A positive quotient of two numbers, kept as a pair. -/
structure Ratio where
  numerator : Nat
  denominator : Nat

/-- The quotient times a power of a base. -/
def Ratio.scale (ratio : Ratio) (base : Nat) (power : Int) : Ratio :=
  if 0 ≤ power then
    ⟨ratio.numerator * Nat.pow base power.toNat, ratio.denominator⟩
  else
    ⟨ratio.numerator, ratio.denominator * Nat.pow base (-power).toNat⟩

/-- Whether one quotient is below another. -/
def Ratio.below (first second : Ratio) : Bool :=
  first.numerator * second.denominator < second.numerator * first.denominator

/-- Whether one quotient is at most another. -/
def Ratio.atMost (first second : Ratio) : Bool :=
  first.numerator * second.denominator ≤ second.numerator * first.denominator

/-- The nearest whole number, a tie going to the even one. -/
def Ratio.round (ratio : Ratio) : Nat :=
  let quotient := ratio.numerator / ratio.denominator
  let remainder := ratio.numerator % ratio.denominator
  if 2 * remainder < ratio.denominator then quotient
  else if 2 * remainder > ratio.denominator then quotient + 1
  else if quotient % 2 = 0 then quotient
  else quotient + 1

namespace Binary64

/-- The least exponent of a finite number. -/
def leastExponent : Int := -1074

/-- The nearest finite number to a positive quotient, as mantissa and exponent,
without an upper bound on the exponent.  A mantissa that is rounded up to 54 bits
is a power of two and is halved. -/
def nearest (ratio : Ratio) : Nat × Int :=
  let size : Int := (Nat.log2 ratio.numerator : Int) - (Nat.log2 ratio.denominator : Int)
  let exponent := max leastExponent (size - 53)
  let mantissa := (ratio.scale 2 (-exponent)).round
  if mantissa < 1 <<< 53 then
    (mantissa, exponent)
  else
    let halved := (ratio.scale 2 (-(exponent + 1))).round
    if halved < 1 <<< 53 then
      (halved, exponent + 1)
    else
      (1 <<< 52, exponent + 2)

/-- The number that `digits * 10 ^ power` denotes.  Powers far outside the range
of finite numbers are settled without computing them. -/
def ofDecimal (negative : Bool) (digits : Nat) (power : Int) : Binary64 :=
  if digits = 0 then
    .finite negative 0 0
  else
    let size : Int := ((Text.decimal digits).length : Int) + power
    if 400 < size then
      .infinite negative
    else if size < -400 then
      .finite negative 0 0
    else
      let (mantissa, exponent) := nearest ((Ratio.mk digits 1).scale 10 power)
      if (Ratio.mk (1 <<< 1024) 1).atMost ((Ratio.mk mantissa 1).scale 2 exponent) then
        .infinite negative
      else
        .finite negative mantissa exponent

end Binary64

end GoldenCheck.Decimal
