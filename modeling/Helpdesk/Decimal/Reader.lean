import Helpdesk.Decimal.Ratio

/-!
# Helpdesk.Decimal.Reader — floats and integers from decimal digits.

The value of a run of digits is exact; a float is the one nearest to it. An exponent so large that
no digit could matter is cut off before any power of ten is computed.
-/
namespace Helpdesk.Decimal

/-- The value of a decimal digit of ASCII. -/
def digitOf (c : Char) : Nat :=
  c.toNat - 48

/-- The number that a run of digits spells. -/
def ofDigits (ds : List Char) : Nat :=
  ds.foldl (fun n d => 10 * n + digitOf d) 0

/-- The float nearest to `digits · 10 ^ exponent`, infinite when it is too large. -/
def nearestFloat (digits : Nat) (exponent : Int) : Float :=
  let size : Int := (Nat.toDigits 10 digits).length + exponent
  if digits = 0 ∨ size < -330 then 0.0
  else if 320 < size then infinity
  else (nearestToRatio (digits * Nat.pow 10 exponent.toNat) (Nat.pow 10 (-exponent).toNat)).getD infinity

/-- A number split into its digits before and after the point and its power of ten. -/
structure Numeral where
  whole : List Char
  fraction : List Char
  power : Int

/-- The float that a numeral spells. -/
def Numeral.toFloat (numeral : Numeral) : Float :=
  nearestFloat (ofDigits (numeral.whole ++ numeral.fraction))
    (numeral.power - numeral.fraction.length)

end Helpdesk.Decimal
