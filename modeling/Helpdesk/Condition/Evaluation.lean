import Helpdesk.Condition.Arithmetic

/-!
# Helpdesk.Condition.Evaluation — the value of an expression in a variable bag.

Evaluation runs left to right and stops at the first fault. The body of a condition stands at depth
one and each operand one deeper than its operator; anything deeper than `maxDepth` is a fault, so
the cost of a condition is bounded by its size alone. The connectives stop at the first operand that
decides them and give a boolean, never the operand itself.
-/
namespace Helpdesk.Condition

/-- The greatest depth at which an expression is still evaluated. -/
def maxDepth : Nat := 50

/-- Why an expression has no value. -/
inductive EvaluationFault where
  | tooDeep
  | unknownVariable (name : String)
  | unsupportedUnary
  | unsupportedBinary
  | unsupportedForm (form : Form)
  /-- The form would have made the whole condition unacceptable. -/
  | forbidden
  /-- A container of this kind has no such item. -/
  | unreadable (key : Operand) (kind : Kind)
  /-- An operator failed on its operands. -/
  | operator (fault : OperatorFault)

/-- What an author is told; nothing is said about the faults of operators. -/
def EvaluationFault.message? : EvaluationFault → Option String
  | .tooDeep => some "expression too deeply nested"
  | .unknownVariable name => some ("unknown variable " ++ name)
  | .unsupportedUnary => some "unsupported unary operator"
  | .unsupportedBinary => some "unsupported binary operator"
  | .unsupportedForm form => some ("unsupported syntax: " ++ form.name)
  | .forbidden => some "disallowed syntax"
  | .unreadable key kind => some ("cannot read " ++ key.literal ++ " from " ++ kind.name)
  | .operator _ => none

abbrev Evaluation := Except EvaluationFault

/-- The result of an operator as an evaluation. -/
def Evaluation.ofOperator {α : Type} : Except OperatorFault α → Evaluation α
  | .ok a => .ok a
  | .error fault => .error (.operator fault)

/-! ## Look-ups -/

/-- The item at a position that may count from the end; none outside the sequence. -/
def itemAt? {α : Type} (items : List α) (position : Int) : Option α :=
  let index := if position < 0 then position + items.length else position
  if index < 0 then none else items[index.toNat]?

/-- The items of a sequence, as operands. -/
def Operand.items? : Operand → Option (List Operand)
  | .text s => some (s.toList.map fun c => .text (String.singleton c))
  | .bytes bs => some (bs.map fun (n : Nat) => .int n)
  | .list items => some items
  | _ => Option.none

/-- Whether an operand is the text `length`. -/
def Operand.isLength : Operand → Bool
  | .text s => s == "length"
  | _ => false

/-- The fault of a container that has no such item. -/
def unreadable (key : Operand) (kind : Kind) : EvaluationFault :=
  if key.isWritable then .unreadable key kind else .operator .badValue

/-- Reads an item of a container: an entry of an object, the length of a sequence or the item at a
position. An absent entry or position reads as none. -/
def lookUp (container key : Operand) : Evaluation Operand :=
  match container with
  | .object entries =>
    if !key.isKey then .error (.operator .kindMismatch)
    else match key with
      | .text name => .ok ((entries.lookup name).getD .none)
      | _ => .ok .none
  | container =>
    match container.items? with
    | none => .error (unreadable key container.kind)
    | some items =>
      if key.isLength then .ok (.int items.length)
      else match key.integer? with
        | some position => .ok ((itemAt? items position).getD .none)
        | none => .error (unreadable key container.kind)

/-! ## Operators -/

/-- Applies a sign or a negation. -/
def applyUnary (op : UnaryOp) (a : Operand) : Evaluation Operand :=
  match op with
  | .not => .ok (.bool !a.counts)
  | .negate => .ofOperator (a.signed true)
  | .plus => .ofOperator (a.signed false)
  | .complement => .error .unsupportedUnary

/-- Applies an arithmetic operator. -/
def applyBinary (op : BinaryOp) (a b : Operand) : Evaluation Operand :=
  match op with
  | .add => .ofOperator (a.add b)
  | .subtract => .ofOperator (a.subtract b)
  | .multiply => .ofOperator (a.multiply b)
  | .divide => .ofOperator (a.divide b)
  | .remainder => .ofOperator (a.remainder b)
  | .unsupported => .error .unsupportedBinary

/-- Compares by order. -/
def ordered (accept : Ordering → Bool) (a b : Operand) : Evaluation Bool :=
  match a.order? b with
  | some found => .ok (found.elim false accept)
  | none => .error (.operator .kindMismatch)

/-- Applies a comparison. `sameSource` tells that both operands were read from one place. -/
def applyComparison (op : Comparison) (sameSource : Bool) (a b : Operand) : Evaluation Bool :=
  match op with
  | .equal => .ok (a.equal b)
  | .unequal => .ok !(a.equal b)
  | .less => ordered (· == .lt) a b
  | .lessEqual => ordered (· != .gt) a b
  | .greater => ordered (· == .gt) a b
  | .greaterEqual => ordered (· != .lt) a b
  | .isIn => .ofOperator (a.isIn b)
  | .notIn => .ofOperator ((a.isIn b).map (!·))
  | .same => .ok (sameSource || a.isShared b)
  | .notSame => .ok !(sameSource || a.isShared b)

/-! ## Expressions -/

mutual

/-- The value of an expression at a depth. -/
def evaluateAt (bag : Entries) (depth : Nat) (e : Expr) : Evaluation Operand :=
  if maxDepth < depth then .error .tooDeep
  else match e with
    | .constant c => .ok (.ofConstant c)
    | .name id => ((Entries.value? id bag).map Operand.ofValue).elim (.error (.unknownVariable id)) .ok
    | .sequence items => (evaluateItems bag (depth + 1) items).map .list
    | .all operands => (allCount bag (depth + 1) operands).map .bool
    | .any operands => (anyCounts bag (depth + 1) operands).map .bool
    | .unary op operand => do applyUnary op (← evaluateAt bag (depth + 1) operand)
    | .binary op left right =>
      if op = .unsupported then .error .unsupportedBinary
      else do
        let a ← evaluateAt bag (depth + 1) left
        let b ← evaluateAt bag (depth + 1) right
        applyBinary op a b
    | .compare first rest => do
      let a ← evaluateAt bag (depth + 1) first
      (holdsAlong bag (depth + 1) first a rest).map .bool
    | .attribute container member => do
      lookUp (← evaluateAt bag (depth + 1) container) (.text member)
    | .subscript container index => do
      let a ← evaluateAt bag (depth + 1) container
      lookUp a (← evaluateAt bag (depth + 1) index)
    | .unsupported form _ => .error (.unsupportedForm form)
    | .forbidden _ _ => .error .forbidden

/-- The values of several expressions. -/
def evaluateItems (bag : Entries) (depth : Nat) (items : List Expr) : Evaluation (List Operand) :=
  match items with
  | [] => .ok []
  | e :: rest => do
    let a ← evaluateAt bag depth e
    return a :: (← evaluateItems bag depth rest)

/-- Whether every operand counts. -/
def allCount (bag : Entries) (depth : Nat) (operands : List Expr) : Evaluation Bool :=
  match operands with
  | [] => .ok true
  | e :: rest => do
    let a ← evaluateAt bag depth e
    if a.counts then allCount bag depth rest else return false

/-- Whether some operand counts. -/
def anyCounts (bag : Entries) (depth : Nat) (operands : List Expr) : Evaluation Bool :=
  match operands with
  | [] => .ok false
  | e :: rest => do
    let a ← evaluateAt bag depth e
    if a.counts then return true else anyCounts bag depth rest

/-- Whether each comparison of a chain holds between its neighbours. -/
def holdsAlong (bag : Entries) (depth : Nat) (left : Expr) (a : Operand)
    (chain : List (Comparison × Expr)) : Evaluation Bool :=
  match chain with
  | [] => .ok true
  | (op, right) :: rest => do
    let b ← evaluateAt bag depth right
    let holds ← applyComparison op (left.samePath right) a b
    if holds then holdsAlong bag depth right b rest else return false

end

/-- The value of a whole condition. -/
def evaluate (bag : Entries) (e : Expr) : Evaluation Operand :=
  evaluateAt bag 1 e

end Helpdesk.Condition
