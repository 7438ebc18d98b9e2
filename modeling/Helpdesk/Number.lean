import Helpdesk.Decimal.Ratio

/-!
# Helpdesk.Number — arithmetic on integers and floats together.

Two integers are added, subtracted and multiplied exactly; as soon as one operand is a float the
other is turned into the nearest float. Comparison never converts: an integer and a float are
compared by their exact values. Whole division and remainder round toward minus infinity, so a
remainder has the sign of its divisor.
-/
namespace Helpdesk

inductive Number where
  | int (n : Int)
  | float (x : Float)

/-- Why an operation on numbers has no result. -/
inductive ArithmeticFault where
  | divisionByZero
  /-- An integer, or a quotient of integers, is too large for a float. -/
  | overflow
  deriving DecidableEq

namespace Number

/-- The float nearest to a number. -/
def toFloat : Number → Except ArithmeticFault Float
  | .int n => (Decimal.floatOfInt? n).elim (.error .overflow) .ok
  | .float x => .ok x

/-- An integer against a float by exact value; nothing for a NaN. -/
def compareIntFloat (n : Int) (x : Float) : Option Ordering :=
  match Decimal.Binary.ofFloat? x with
  | some b => some (compare (n * b.denominator) b.signedNumerator)
  | none => if x.isNaN then none else if x < 0.0 then some .gt else some .lt

/-- Two numbers by exact value; nothing when one is a NaN. -/
def compare? : Number → Number → Option Ordering
  | .int m, .int n => some (compare m n)
  | .int m, .float y => compareIntFloat m y
  | .float x, .int n => (compareIntFloat n x).map Ordering.swap
  | .float x, .float y =>
    if x < y then some .lt else if y < x then some .gt else if x == y then some .eq else none

/-- Whether two numbers have the same value. -/
def equal (a b : Number) : Bool :=
  compare? a b == some .eq

/-- An operation that is exact on integers. -/
def lift (onInts : Int → Int → Int) (onFloats : Float → Float → Float) (a b : Number) :
    Except ArithmeticFault Number :=
  match a, b with
  | .int m, .int n => .ok (.int (onInts m n))
  | _, _ => do return .float (onFloats (← a.toFloat) (← b.toFloat))

/-- The sum. -/
def add : Number → Number → Except ArithmeticFault Number :=
  lift (· + ·) (· + ·)

/-- The difference. -/
def subtract : Number → Number → Except ArithmeticFault Number :=
  lift (· - ·) (· - ·)

/-- The product. -/
def multiply : Number → Number → Except ArithmeticFault Number :=
  lift (· * ·) (· * ·)

/-- The negative. -/
def negate : Number → Number
  | .int n => .int (-n)
  | .float x => .float (-x)

/-- The quotient of two integers as the nearest float. -/
def divideInts (m n : Int) : Except ArithmeticFault Float :=
  if n = 0 then .error .divisionByZero
  else match Decimal.nearestToRatio m.natAbs n.natAbs with
    | some x => .ok (if (m < 0) = (n < 0) then x else -x)
    | none => .error .overflow

/-- The quotient, always a float. -/
def divide (a b : Number) : Except ArithmeticFault Float :=
  match a, b with
  | .int m, .int n => divideInts m n
  | _, _ => do
    let x ← a.toFloat
    let y ← b.toFloat
    if y == 0.0 then .error .divisionByZero else .ok (x / y)

/-- A float with the magnitude of one and the sign of another. -/
def withSignOf (magnitude sign : Float) : Float :=
  if Decimal.isNegative magnitude = Decimal.isNegative sign then magnitude else -magnitude

/-- The remainder of two finite floats with the sign of the dividend, which is always exact. -/
def truncatedRemainder (a b : Decimal.Binary) : Option Float :=
  let base := min a.exponent b.exponent
  let m := a.significand * Nat.pow 2 (a.exponent - base).toNat
  let n := b.significand * Nat.pow 2 (b.exponent - base).toNat
  let rest := m % n
  (Decimal.nearestToRatio (rest * Nat.pow 2 base.toNat) (Nat.pow 2 (-base).toNat)).map fun x =>
    if a.negative then -x else x

/-- The remainder of two floats with the sign of the divisor. -/
def remainderFloats (x y : Float) : Except ArithmeticFault Float :=
  if y == 0.0 then .error .divisionByZero
  else
    let rest := match Decimal.Binary.ofFloat? x, Decimal.Binary.ofFloat? y with
      | some a, some b => (truncatedRemainder a b).getD (0.0 / 0.0)
      | some _, none => if y.isNaN then y else x
      | none, _ => 0.0 / 0.0
    if rest == 0.0 then .ok (withSignOf 0.0 y)
    else if (y < 0.0) != (rest < 0.0) then .ok (rest + y)
    else .ok rest

/-- The remainder with the sign of the divisor. -/
def remainder (a b : Number) : Except ArithmeticFault Number :=
  match a, b with
  | .int m, .int n => if n = 0 then .error .divisionByZero else .ok (.int (m.fmod n))
  | _, _ => do return .float (← remainderFloats (← a.toFloat) (← b.toFloat))

end Number

end Helpdesk
