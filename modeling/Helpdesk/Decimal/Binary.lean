/-!
# Helpdesk.Decimal.Binary — a float as an exact fraction.

A finite float is `± significand · 2 ^ exponent`. All decimal text in this library is computed from
these two whole numbers in exact arithmetic, so no printed digit depends on float rounding.
-/
namespace Helpdesk.Decimal

/-- The exact value `significand · 2 ^ exponent` of a finite float, with its sign apart. -/
structure Binary where
  negative : Bool
  significand : Nat
  exponent : Int
  deriving DecidableEq

/-- Whether the sign bit of a float is set; a zero may carry one too. -/
def isNegative (x : Float) : Bool :=
  x.toBits.toNat / Nat.pow 2 63 == 1

/-- The parts of a finite float; nothing for an infinity or a NaN. -/
def Binary.ofFloat? (x : Float) : Option Binary :=
  let bits := x.toBits.toNat
  let power : Nat := bits / Nat.pow 2 52 % Nat.pow 2 11
  let fraction : Nat := bits % Nat.pow 2 52
  if power = 2047 then none
  else if power = 0 then some ⟨isNegative x, fraction, -1074⟩
  else some ⟨isNegative x, fraction + Nat.pow 2 52, (power : Int) - 1075⟩

namespace Binary

/-- The numerator of the magnitude. -/
def numerator (b : Binary) : Nat :=
  b.significand * Nat.pow 2 b.exponent.toNat

/-- The denominator of the magnitude, a power of two. -/
def denominator (b : Binary) : Nat :=
  Nat.pow 2 (-b.exponent).toNat

/-- The integer nearest to zero that keeps the whole part. -/
def truncated (b : Binary) : Int :=
  let whole : Int := b.numerator / b.denominator
  if b.negative then -whole else whole

/-- Whether the value is a whole number. -/
def isWhole (b : Binary) : Bool :=
  b.numerator % b.denominator == 0

/-- The numerator with its sign. -/
def signedNumerator (b : Binary) : Int :=
  if b.negative then -(b.numerator : Int) else b.numerator

end Binary

/-- The quotient rounded to the nearest whole number, a half to the even neighbour. -/
def roundHalfEven (numerator denominator : Nat) : Nat :=
  let quotient := numerator / denominator
  let twice := 2 * (numerator % denominator)
  if twice < denominator then quotient
  else if denominator < twice then quotient + 1
  else if quotient % 2 = 0 then quotient else quotient + 1

end Helpdesk.Decimal
