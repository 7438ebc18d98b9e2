import Helpdesk.Decimal.Shortest

/-!
# Helpdesk.Decimal.Significant — floats rounded to a number of significant digits.

Three notations are built on it: a fixed number of places, an exponent with a fixed number of
places, and the general notation that chooses between the two by the size of the exponent and drops
zeros at the end.
-/
namespace Helpdesk.Decimal

/-- A value other than zero rounded half to even to `count` significant digits, and the power of ten
of the first of them. -/
def Binary.significant (b : Binary) (count : Nat) : Nat × Int :=
  let power := b.leadingPower 640 (-325)
  let (n, d) := b.scaled (power - (count : Int) + 1)
  let units := roundHalfEven n d
  if units = Nat.pow 10 count then (Nat.pow 10 (count - 1), power + 1) else (units, power)

/-- Significant digits and the power of the first, for zero too. -/
def Binary.leading (b : Binary) (count : Nat) : List Char × Int :=
  if b.significand = 0 then (List.replicate count '0', 0)
  else
    let (units, power) := b.significant count
    (padZeros count (digits units), power)

/-- An exponent with its sign and at least two digits. -/
def exponentText (power : Int) : List Char :=
  [if power < 0 then '-' else '+'] ++ padZeros 2 (digits power.natAbs)

/-- Digits with a point after the first; `keepPoint` writes it even when no digit follows. -/
def pointAfterFirst (keepPoint : Bool) : List Char → List Char
  | [] => []
  | d :: rest => if rest.isEmpty && !keepPoint then [d] else d :: '.' :: rest

/-- The magnitude with `places` decimal places. -/
def Binary.fixedText (b : Binary) (keepPoint : Bool) (places : Nat) : List Char :=
  let units := roundHalfEven (b.numerator * Nat.pow 10 places) b.denominator
  withPoint places units ++ (if keepPoint && places == 0 then ['.'] else [])

/-- The magnitude with an exponent and `places` decimal places. -/
def Binary.exponentialText (b : Binary) (keepPoint : Bool) (places : Nat) : List Char :=
  let (ds, power) := b.leading (places + 1)
  pointAfterFirst keepPoint ds ++ 'e' :: exponentText power

/-- Digits without the zeros at their end. -/
def dropZeros (ds : List Char) : List Char :=
  (ds.reverse.dropWhile (· == '0')).reverse

/-- The magnitude in general notation with `count` significant digits. -/
def Binary.generalText (b : Binary) (keepZeros : Bool) (count : Nat) : List Char :=
  let (ds, power) := b.leading count
  if -4 ≤ power ∧ power < count then
    let text := b.fixedText keepZeros ((count : Int) - 1 - power).toNat
    if keepZeros || !text.contains '.' then text
    else
      let kept := dropZeros text
      if kept.getLast? = some '.' then kept.dropLast else kept
  else
    let kept := if keepZeros then ds else (ds.take 1 ++ dropZeros (ds.drop 1))
    pointAfterFirst keepZeros kept ++ 'e' :: exponentText power

end Helpdesk.Decimal
