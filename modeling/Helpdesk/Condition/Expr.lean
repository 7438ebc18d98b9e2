/-!
# Helpdesk.Condition.Expr — the expressions that conditions are written in.

The grammar is larger than what conditions may use. Three classes of expression are told apart:

* those with a value: constants, names, sequences, connectives, arithmetic, comparisons and look-ups;
* *unsupported* forms, which parse but fail when they are evaluated;
* *forbidden* forms — calls, functions, comprehensions, assignments and unpacking — which make the
  whole condition unacceptable wherever they occur in it.

For the last two only the sub-expressions are kept, because nothing else about them is ever used.
-/
namespace Helpdesk.Condition

/-- A value spelled in a condition. -/
inductive Constant where
  | none
  | bool (b : Bool)
  | int (n : Nat)
  | float (x : Float)
  | imaginary (x : Float)
  | text (s : String)
  | bytes (bs : List Nat)
  | ellipsis

inductive UnaryOp where
  | not | negate | plus
  /-- Bitwise complement, which conditions do not evaluate. -/
  | complement
  deriving DecidableEq

inductive BinaryOp where
  | add | subtract | multiply | divide | remainder
  /-- Powers, whole division and bitwise operators, which conditions do not evaluate. -/
  | unsupported
  deriving DecidableEq

inductive Comparison where
  | equal | unequal | less | lessEqual | greater | greaterEqual
  | isIn | notIn
  | same | notSame
  deriving DecidableEq

/-- Forms that parse but have no value in a condition. -/
inductive Form where
  | choice | mapping | set | slice | interpolation | yield | yieldFrom | await
  deriving DecidableEq

/-- The name of a form in an error message. -/
def Form.name : Form → String
  | .choice => "IfExp"
  | .mapping => "Dict"
  | .set => "Set"
  | .slice => "Slice"
  | .interpolation => "JoinedStr"
  | .yield => "Yield"
  | .yieldFrom => "YieldFrom"
  | .await => "Await"

/-- Forms that no condition may contain. -/
inductive Forbidden where
  | call | function | comprehension | assignment | unpacking
  deriving DecidableEq

inductive Expr where
  | constant (c : Constant)
  | name (id : String)
  /-- A list or a tuple. -/
  | sequence (items : List Expr)
  /-- Operands joined by `and`. -/
  | all (operands : List Expr)
  /-- Operands joined by `or`. -/
  | any (operands : List Expr)
  | unary (op : UnaryOp) (operand : Expr)
  | binary (op : BinaryOp) (left right : Expr)
  /-- A chain of comparisons, each between neighbours. -/
  | compare (first : Expr) (rest : List (Comparison × Expr))
  | attribute (container : Expr) (member : String)
  | subscript (container index : Expr)
  | unsupported (form : Form) (parts : List Expr)
  | forbidden (form : Forbidden) (parts : List Expr)
  deriving Inhabited

namespace Expr

mutual

/-- Whether a forbidden form occurs anywhere. -/
def hasForbidden : Expr → Bool
  | .constant _ => false
  | .name _ => false
  | .sequence items => anyForbidden items
  | .all operands => anyForbidden operands
  | .any operands => anyForbidden operands
  | .unary _ e => hasForbidden e
  | .binary _ l r => hasForbidden l || hasForbidden r
  | .compare e rest => hasForbidden e || anyForbiddenComparand rest
  | .attribute e _ => hasForbidden e
  | .subscript e i => hasForbidden e || hasForbidden i
  | .unsupported _ parts => anyForbidden parts
  | .forbidden _ _ => true

/-- Whether a forbidden form occurs in one of several expressions. -/
def anyForbidden : List Expr → Bool
  | [] => false
  | e :: rest => hasForbidden e || anyForbidden rest

/-- Whether a forbidden form occurs in the tail of a chain of comparisons. -/
def anyForbiddenComparand : List (Comparison × Expr) → Bool
  | [] => false
  | (_, e) :: rest => hasForbidden e || anyForbiddenComparand rest

end

mutual

/-- The names that an expression reads. -/
def names : Expr → List String
  | .constant _ => []
  | .name id => [id]
  | .sequence items => namesOfAll items
  | .all operands => namesOfAll operands
  | .any operands => namesOfAll operands
  | .unary _ e => names e
  | .binary _ l r => names l ++ names r
  | .compare e rest => names e ++ namesOfComparands rest
  | .attribute e _ => names e
  | .subscript e i => names e ++ names i
  | .unsupported _ parts => namesOfAll parts
  | .forbidden _ parts => namesOfAll parts

/-- The names that several expressions read. -/
def namesOfAll : List Expr → List String
  | [] => []
  | e :: rest => names e ++ namesOfAll rest

/-- The names that the tail of a chain of comparisons reads. -/
def namesOfComparands : List (Comparison × Expr) → List String
  | [] => []
  | (_, e) :: rest => names e ++ namesOfComparands rest

end

/-- Whether two expressions are the same path of look-ups from one name, and so read one stored
item. -/
def samePath : Expr → Expr → Bool
  | .name x, .name y => x == y
  | .attribute e m, .attribute f n => samePath e f && m == n
  | .attribute e m, .subscript f (.constant (.text n)) => samePath e f && m == n
  | .subscript e (.constant (.text m)), .attribute f n => samePath e f && m == n
  | .subscript e (.constant (.text m)), .subscript f (.constant (.text n)) => samePath e f && m == n
  | .subscript e (.constant (.int m)), .subscript f (.constant (.int n)) => samePath e f && m == n
  | _, _ => false

end Expr

end Helpdesk.Condition
