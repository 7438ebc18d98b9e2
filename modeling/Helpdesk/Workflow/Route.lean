import Helpdesk.Condition
import Helpdesk.Notice

/-!
# Helpdesk.Workflow.Route — where a run goes after a step.

A step is left by its only edge, or by the first edge whose condition holds, or by the edge without
a condition, or the run ends. Conditions are asked in order and only as far as needed.
-/
namespace Helpdesk.Workflow

/-- Where an edge leads. -/
inductive Target where
  | node (id : String)
  | finish
  deriving DecidableEq

namespace Target

/-- The name of the end of every run. -/
def finishName : String := "__end__"

/-- The name of a target. -/
def name : Target → String
  | node id => id
  | finish => finishName

end Target

/-- How a step is left. -/
inductive Route where
  | direct (target : Target)
  | conditional (branches : List (Condition × Target)) (otherwise : Option Target)

namespace Route

/-- The target of the edge without a condition; a node without a name is none. -/
def fallback : Option Target → Target
  | some (.node id) => if id.isEmpty then .finish else .node id
  | some .finish => .finish
  | none => .finish

/-- What is noted about a condition that was asked. -/
def asked (c : Condition) : Condition.Verdict → List Notice
  | .failedClosed _ => [.warning "condition_eval_failed" [("expression", .text c.expression)]]
  | _ => []

/-- The first branch whose condition holds. A fault that is no answer ends the search. -/
def choose (bag : Entries) (otherwise : Target) :
    List (Condition × Target) → List Notice × Except Condition.EvaluationFault Target
  | [] => ([], .ok otherwise)
  | (c, target) :: rest =>
    let verdict := c.ask bag
    match verdict.answer with
    | .error fault => (asked c verdict, .error fault)
    | .ok true => (asked c verdict, .ok target)
    | .ok false =>
      let (notices, choice) := choose bag otherwise rest
      (asked c verdict ++ notices, choice)

/-- Where a run goes with a bag of variables. -/
def resolve (bag : Entries) : Route → List Notice × Except Condition.EvaluationFault Target
  | direct target => ([], .ok target)
  | conditional branches otherwise => choose bag (fallback otherwise) branches

/-- A branch as a record: its condition, where it leads, and why the condition cannot be read. -/
def branchValue (branch : Condition × Target) : Value :=
  .list [.text branch.1.expression, .text branch.2.name, .ofText? branch.1.readError?]

/-- A route as a record. -/
def toValue : Route → Value
  | direct target => .object [("to", .text target.name)]
  | conditional branches otherwise => .object [
      ("branches", .list (branches.map branchValue)),
      ("default", .ofText? (otherwise.map Target.name))]

/-- What is noted about the conditions of a route that cannot be read. -/
def unreadable : Route → List Notice
  | direct _ => []
  | conditional branches _ => branches.filterMap fun (c, _) =>
    c.readError?.map fun _ =>
      .warning "condition_parse_failed" [("expression", .text c.expression)]

end Route

end Helpdesk.Workflow
