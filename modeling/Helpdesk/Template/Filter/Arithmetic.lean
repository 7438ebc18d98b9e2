import Helpdesk.Decimal.Exact
import Helpdesk.Decimal.Spelled
import Helpdesk.Template.Filter

/-!
# Helpdesk.Template.Filter.Arithmetic — filters on numbers.

Anything that is no number and spells none counts as zero.
-/
namespace Helpdesk.Template.Filter

/-- The number that a text spells. -/
def spelledNumber? (s : String) : Option Number :=
  match Decimal.spelledInt? s with
  | some n => some (.int n)
  | none => (Decimal.spelledFloat? s).map .float

/-- An item as a number. -/
def numberOf : Item → Number
  | .text s => (spelledNumber? s).getD (.int 0)
  | a => a.number?.getD (.int 0)

/-- A number as an item. -/
def ofNumber : Number → Item
  | .int n => .int n
  | .float x => .float x

/-- An argument as a number. -/
def argument (arguments : List (Option Item)) : Number :=
  match arguments with
  | some a :: _ => numberOf a
  | _ => .int 0

/-- An operation that is exact on integers and decimal on floats. -/
def combine (onInts : Int → Int → Int)
    (onDecimals : Decimal.Exact → Decimal.Exact → Decimal.Exact) (a b : Number) : Option Item :=
  match a, b with
  | .int m, .int n => some (.int (onInts m n))
  | a, b => do
    let x ← Decimal.Exact.ofNumber? a
    let y ← Decimal.Exact.ofNumber? b
    return .float (onDecimals x y).toFloat

/-- The quotient: whole for integers, rounded down. -/
def quotient? : Number → Number → Option Item
  | .int m, .int n => if n = 0 then none else some (.int (m.fdiv n))
  | a, b =>
    match Number.divide a b with
    | .ok x => some (.float x)
    | .error _ => none

/-- The remainder. -/
def remainder? : Number → Number → Option Item
  | .int m, .int n => if n = 0 then none else some (.int (m.fmod n))
  | a, b => do
    let x ← Decimal.Exact.ofNumber? a
    let y ← Decimal.Exact.ofNumber? b
    return .float (← Decimal.Exact.remainder? x y).toFloat

/-- The magnitude. -/
def magnitude : Number → Item
  | .int n => .int n.natAbs
  | .float x => .float x.abs

/-- A number rounded to a whole one by a rule on fractions. -/
def toWhole? (rule : Int → Nat → Int) : Number → Option Item
  | .int n => some (.int n)
  | .float x => (Decimal.Binary.ofFloat? x).map fun b => .int (rule b.signedNumerator b.denominator)

/-- The fraction rounded half to even. -/
def nearestWhole (numerator : Int) (denominator : Nat) : Int :=
  let n : Int := Decimal.roundHalfEven numerator.natAbs denominator
  if numerator < 0 then -n else n

/-- Rounds to a number of places. -/
def round? (a : Number) (places : Option Item) : Option Item :=
  let count : Int := match places with
    | none => 0
    | some p =>
      match numberOf p with
      | .int n => n
      | .float x => ((Decimal.Binary.ofFloat? x).map Decimal.Binary.truncated).getD 0
  if count < 0 then some (.int 0)
  else if count = 0 then toWhole? nearestWhole a
  else match a with
    | .int n => some (.int n)
    | .float x => (Decimal.spelledFloat? (Decimal.fixed count.toNat x)).map .float

/-- The larger of two numbers, the first of equal ones. -/
def larger (a b : Number) : Number :=
  if Number.compare? b a == some .gt then b else a

/-- The smaller of two numbers, the first of equal ones. -/
def smaller (a b : Number) : Number :=
  if Number.compare? b a == some .lt then b else a

/-- A filter on a number with one number as its argument. -/
def onNumbers (name : String) (f : Number → Number → Option Item) : Filter :=
  ⟨name, 1, ["other"], fun a arguments => f (numberOf a) (argument arguments)⟩

/-- A filter on a number. -/
def onNumber (name : String) (f : Number → Option Item) : Filter :=
  ⟨name, 0, [], fun a _ => f (numberOf a)⟩

/-- The filters on numbers. -/
def arithmetic : List Filter := [
  onNumbers "plus" (combine (· + ·) Decimal.Exact.add),
  onNumbers "minus" (combine (· - ·) Decimal.Exact.subtract),
  onNumbers "times" (combine (· * ·) Decimal.Exact.multiply),
  onNumbers "divided_by" quotient?,
  onNumbers "modulo" remainder?,
  onNumbers "at_least" fun a b => some (ofNumber (larger a b)),
  onNumbers "at_most" fun a b => some (ofNumber (smaller a b)),
  onNumber "abs" fun a => some (magnitude a),
  onNumber "ceil" (toWhole? fun n d => -((-n).fdiv d)),
  onNumber "floor" (toWhole? fun n d => n.fdiv d),
  ⟨"round", 0, ["ndigits"], fun a arguments => round? (numberOf a) arguments.head?.join⟩]

end Helpdesk.Template.Filter
