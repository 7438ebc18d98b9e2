import Helpdesk.Decimal.Reader
import Helpdesk.Decimal.Shortest
import Helpdesk.Number

/-!
# Helpdesk.Decimal.Exact — decimal arithmetic on floats.

In templates a float means the shortest decimal that reads back as it, and sums and products are
those of the decimals, rounded half to even at twenty-eight digits: a tenth and two tenths make
three tenths. Only the final result is turned into a float again.
-/
namespace Helpdesk.Decimal

/-- The decimal `mantissa · 10 ^ exponent`. -/
structure Exact where
  mantissa : Int
  exponent : Int

namespace Exact

/-- The number of digits that results are rounded to. -/
def precision : Nat := 28

/-- The decimal that a number means; nothing for an infinity or a NaN. -/
def ofNumber? : Number → Option Exact
  | .int n => some ⟨n, 0⟩
  | .float x => (Binary.ofFloat? x).map fun b =>
    if b.significand = 0 then ⟨0, 0⟩
    else
      let s := b.shortest
      ⟨if b.negative then -(s.digits : Int) else s.digits, s.exponent⟩

/-- The mantissa at a lower exponent. -/
def mantissaAt (d : Exact) (exponent : Int) : Int :=
  d.mantissa * Nat.pow 10 (d.exponent - exponent).toNat

/-- Rounds to the precision. -/
def rounded (d : Exact) : Exact :=
  let excess := (digits d.mantissa.natAbs).length - precision
  if excess = 0 then d
  else
    let kept : Int := roundHalfEven d.mantissa.natAbs (Nat.pow 10 excess)
    ⟨if d.mantissa < 0 then -kept else kept, d.exponent + excess⟩

/-- The sum. -/
def add (a b : Exact) : Exact :=
  let e := min a.exponent b.exponent
  rounded ⟨a.mantissaAt e + b.mantissaAt e, e⟩

/-- The difference. -/
def subtract (a b : Exact) : Exact :=
  add a ⟨-b.mantissa, b.exponent⟩

/-- The product. -/
def multiply (a b : Exact) : Exact :=
  rounded ⟨a.mantissa * b.mantissa, a.exponent + b.exponent⟩

/-- The remainder with the sign of the dividend; nothing for a divisor of zero. -/
def remainder? (a b : Exact) : Option Exact :=
  let e := min a.exponent b.exponent
  let divisor := b.mantissaAt e
  if divisor = 0 then none else some (rounded ⟨(a.mantissaAt e).tmod divisor, e⟩)

/-- The float nearest to a decimal. -/
def toFloat (d : Exact) : Float :=
  let x := nearestFloat d.mantissa.natAbs d.exponent
  if d.mantissa < 0 then -x else x

end Exact

end Helpdesk.Decimal
