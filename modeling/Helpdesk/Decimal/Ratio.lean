import Helpdesk.Decimal.Binary

/-!
# Helpdesk.Decimal.Ratio — the float nearest to a fraction.

Every conversion into a float goes through one function: the fraction is scaled by a power of two
until its whole part has fifty-three bits, or until the least exponent is reached, and rounded half
to even. Division of integers, remainders and the reading of decimals are exact up to that one
rounding.
-/
namespace Helpdesk.Decimal

/-- The fraction `numerator / denominator` divided by `2 ^ power`. -/
def scaleRatio (numerator denominator : Nat) (power : Int) : Nat × Nat :=
  (numerator * Nat.pow 2 (-power).toNat, denominator * Nat.pow 2 power.toNat)

/-- The exponent at which a positive fraction has a fifty-three bit whole part, or the least one. -/
def ratioExponent (numerator denominator : Nat) : Int :=
  let guess : Int := (numerator.log2 : Int) - denominator.log2 - 52
  let (n, d) := scaleRatio numerator denominator guess
  let power := if n / d < Nat.pow 2 52 then guess - 1 else guess
  max power (-1074)

/-- The float `significand · 2 ^ exponent`, for a significand of at most fifty-three bits at the
exponent that `ratioExponent` gives; nothing when it is too large. -/
def assemble (significand : Nat) (exponent : Int) : Option Float :=
  let (m, e) := if significand = Nat.pow 2 53 then (Nat.pow 2 52, exponent + 1) else (significand, exponent)
  if m < Nat.pow 2 52 then some (Float.ofBits (UInt64.ofNat m))
  else
    let biased := (e + 1075).toNat
    if 2047 ≤ biased then none
    else some (Float.ofBits (UInt64.ofNat (biased * Nat.pow 2 52 + (m - Nat.pow 2 52))))

/-- The float nearest to `numerator / denominator`; nothing when it is too large. -/
def nearestToRatio (numerator denominator : Nat) : Option Float :=
  if numerator = 0 ∨ denominator = 0 then some 0.0
  else
    let power := ratioExponent numerator denominator
    let (n, d) := scaleRatio numerator denominator power
    assemble (roundHalfEven n d) power

/-- An infinity. -/
def infinity : Float := 1.0 / 0.0

/-- The float nearest to an integer; nothing when it is too large. -/
def floatOfInt? (n : Int) : Option Float :=
  (nearestToRatio n.natAbs 1).map fun x => if n < 0 then -x else x

end Helpdesk.Decimal
