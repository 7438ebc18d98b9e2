import Helpdesk.Condition.Evaluation
import Helpdesk.Condition.Parser

/-!
# Helpdesk.Condition — the conditions on the edges of a workflow.

A condition is written in a small expression language over the variables of a run. It is read once,
when the workflow is compiled; a condition that cannot be read never holds. Evaluation fails closed:
a condition whose evaluation goes wrong does not hold either. The few faults that are not the
author's mistake — a number beyond the range of floats, a result too large to hold, a missing name
in a text template — are not taken for an answer and stop the run.
-/
namespace Helpdesk

/-- A condition as it is written, and its reading. -/
structure Condition where
  expression : String
  reading : Except Condition.SyntaxFault Condition.Expr

namespace Condition

/-- Reads a condition. -/
def ofText (expression : String) : Condition :=
  ⟨expression, parse expression⟩

/-- What the author is told when the condition cannot be read. -/
def readError? (c : Condition) : Option String :=
  match c.reading with
  | .ok _ => none
  | .error fault => some (fault.message c.expression)

/-- Whether a fault of evaluation counts as the answer "no". -/
def EvaluationFault.failsClosed : EvaluationFault → Bool
  | .operator .overflow => false
  | .operator .tooLarge => false
  | .operator .missingName => false
  | _ => true

/-- What came of asking a condition. -/
inductive Verdict where
  | decided (holds : Bool)
  /-- The condition could not be read. -/
  | unreadable
  /-- Evaluation went wrong, so the condition does not hold. -/
  | failedClosed (fault : EvaluationFault)
  /-- Evaluation went wrong in a way that is no answer. -/
  | escaped (fault : EvaluationFault)

/-- Asks a condition. -/
def ask (c : Condition) (bag : Entries) : Verdict :=
  match c.reading with
  | .error _ => .unreadable
  | .ok e =>
    match evaluate bag e with
    | .ok a => .decided a.counts
    | .error fault => if fault.failsClosed then .failedClosed fault else .escaped fault

/-- The answer of a verdict, unless the fault escapes. -/
def Verdict.answer : Verdict → Except EvaluationFault Bool
  | .decided holds => .ok holds
  | .unreadable => .ok false
  | .failedClosed _ => .ok false
  | .escaped fault => .error fault

end Condition

end Helpdesk
