import Helpdesk.Decimal.Binary

/-!
# Helpdesk.Decimal.Fixed — floats with a fixed number of decimal places.

The digits are those of the exact value, rounded half to even at the last place.
-/
namespace Helpdesk.Decimal

/-- Digits on the left filled up with zeros to a width. -/
def padZeros (width : Nat) (digits : List Char) : List Char :=
  List.replicate (width - digits.length) '0' ++ digits

/-- The decimal digits of a whole number. -/
def digits (n : Nat) : List Char :=
  Nat.toDigits 10 n

/-- A whole number of units of the last place, written with a point before the last `places`
digits. -/
def withPoint (places : Nat) (units : Nat) : List Char :=
  let all := padZeros (places + 1) (digits units)
  let whole := all.take (all.length - places)
  if places = 0 then whole else whole ++ '.' :: all.drop (all.length - places)

/-- A float with `places` decimal places; infinities and NaN as words. -/
def fixed (places : Nat) (x : Float) : String :=
  match Binary.ofFloat? x with
  | some b =>
    let units := roundHalfEven (b.numerator * Nat.pow 10 places) b.denominator
    String.ofList ((if b.negative then ['-'] else []) ++ withPoint places units)
  | none => if x.isNaN then "nan" else if isNegative x then "-inf" else "inf"

end Helpdesk.Decimal
