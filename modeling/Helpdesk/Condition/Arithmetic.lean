import Helpdesk.Condition.Percent

/-!
# Helpdesk.Condition.Arithmetic — the operators of conditions.

`+` joins texts, bytes and lists as well as adding numbers, `*` repeats a text, bytes or a list, and
`%` fills the fields of a text. Everything else is arithmetic; imaginary numbers take part in all of
it but the remainder.
-/
namespace Helpdesk.Condition

abbrev OperatorResult := Except OperatorFault Operand

namespace Operand

/-- A number as an operand. -/
def ofNumber : Number → Operand
  | .int n => .int n
  | .float x => .float x

/-- The result of arithmetic as the result of an operator. -/
def ofArithmetic : Except ArithmeticFault Number → OperatorResult
  | .ok n => .ok (ofNumber n)
  | .error fault => .error (.ofArithmetic fault)

/-- The most items that a repetition may make. -/
def maxRepeated : Nat := Nat.pow 2 32

/-- A run repeated; `tooLong` is the fault when its length cannot even be counted. -/
def repeated {α : Type} (tooLong : OperatorFault) (run : List α) (times : Int) :
    Except OperatorFault (List α) :=
  if Percent.maxSize < times.natAbs then .error .overflow
  else
    let size := run.length * times.toNat
    if size = 0 then .ok []
    else if Percent.maxSize < size then .error tooLong
    else if maxRepeated < size then .error .tooLarge
    else .ok (List.replicate times.toNat run).flatten

/-- A text, bytes or a list repeated. -/
def repeat? (a : Operand) (times : Int) : Option OperatorResult :=
  match a with
  | .text s => some ((repeated .overflow s.toList times).map fun cs => .text (String.ofList cs))
  | .bytes bs => some ((repeated .overflow bs times).map .bytes)
  | .list items => some ((repeated .tooLarge items times).map .list)
  | _ => Option.none

/-- Arithmetic on complex numbers, when both operands are numbers and one of them is complex. -/
def complexly (f : Float × Float → Float × Float → Except OperatorFault (Float × Float))
    (a b : Operand) : OperatorResult :=
  match a.parts?, b.parts? with
  | some (.ok x), some (.ok y) => (f x y).map fun (re, im) => .complex re im
  | some _, some _ => .error .overflow
  | _, _ => .error .kindMismatch

/-- The quotient of complex numbers, divided by the larger part of the divisor first. -/
def complexQuotient : Float × Float → Float × Float → Except OperatorFault (Float × Float)
  | (a, b), (c, d) =>
    if d.abs ≤ c.abs then
      if c == 0.0 then .error .divisionByZero
      else
        let ratio := d / c
        let divisor := c + d * ratio
        .ok ((a + b * ratio) / divisor, (b - a * ratio) / divisor)
    else if c.abs ≤ d.abs then
      let ratio := c / d
      let divisor := c * ratio + d
      .ok ((a * ratio + b) / divisor, (b * ratio - a) / divisor)
    else .ok (0.0 / 0.0, 0.0 / 0.0)

/-- `a + b`. -/
def add (a b : Operand) : OperatorResult :=
  match a, b with
  | .text s, .text t => .ok (.text (s ++ t))
  | .bytes s, .bytes t => .ok (.bytes (s ++ t))
  | .list s, .list t => .ok (.list (s ++ t))
  | a, b =>
    match a.number?, b.number? with
    | some m, some n => ofArithmetic (Number.add m n)
    | _, _ => complexly (fun (p, q) (r, s) => .ok (p + r, q + s)) a b

/-- `a - b`. -/
def subtract (a b : Operand) : OperatorResult :=
  match a.number?, b.number? with
  | some m, some n => ofArithmetic (Number.subtract m n)
  | _, _ => complexly (fun (p, q) (r, s) => .ok (p - r, q - s)) a b

/-- `a * b`. -/
def multiply (a b : Operand) : OperatorResult :=
  match a.number?, b.number? with
  | some m, some n => ofArithmetic (Number.multiply m n)
  | _, _ =>
    let repetition := match b.integer?, a.integer? with
      | some n, _ => a.repeat? n
      | _, some n => b.repeat? n
      | _, _ => Option.none
    repetition.getD
      (complexly (fun (p, q) (r, s) => .ok (p * r - q * s, p * s + q * r)) a b)

/-- `a / b`. -/
def divide (a b : Operand) : OperatorResult :=
  match a.number?, b.number? with
  | some m, some n =>
    match Number.divide m n with
    | .ok x => .ok (.float x)
    | .error fault => .error (.ofArithmetic fault)
  | _, _ => complexly complexQuotient a b

/-- `a % b`. -/
def remainder (a b : Operand) : OperatorResult :=
  match a with
  | .text s => (Percent.fill false s.toList b).map fun cs => .text (String.ofList cs)
  | .bytes bs => (Percent.fill true (bs.map Char.ofNat) b).map fun cs => .bytes (cs.map Char.toNat)
  | a =>
    match a.number?, b.number? with
    | some m, some n => ofArithmetic (Number.remainder m n)
    | _, _ => .error .kindMismatch

/-- `-a` and `+a`, which turn booleans into integers. -/
def signed (negative : Bool) (a : Operand) : OperatorResult :=
  match a with
  | .complex re im => .ok (if negative then .complex (-re) (-im) else a)
  | a =>
    match a.number? with
    | some n => .ok (ofNumber (if negative then n.negate else n))
    | Option.none => .error .kindMismatch

end Operand

end Helpdesk.Condition
