import Helpdesk.Condition.Evaluation
import Helpdesk.Json.Reader
import Helpdesk.Misfit
import Helpdesk.Validation

/-!
# Helpdesk.Fault — why a piece of work did not get done.

Work on free-form data can meet a misfit, and work with a collaborator can be let down: a model, a
store, a repository or a channel may fail, take too long, or answer with something unusable. Faults
are causes; what is said about them is put together in one place, because it is what operators read
in the log.
-/
namespace Helpdesk

inductive Fault where
  | misfit (m : Misfit)
  /-- A record of a model does not hold together. -/
  | invalid (model : String) (issues : List Issue)
  | malformedJson
  /-- A text in JSON holds an integer with too many digits. -/
  | hugeInteger
  /-- A store could not do what it was asked for. -/
  | store (message : String) (details : Entries)
  /-- The search for a query failed. -/
  | search (query : String) (message : String)
  /-- A model gave no usable decision. -/
  | decision (message : String)
  /-- Something could not be written down. -/
  | persistence (message : String) (details : Entries)
  /-- Neither a scope nor the fallback scope has a workflow. -/
  | noWorkflow (scope : Option String) (available : List String)
  /-- A run took all the steps that it may take. -/
  | stepLimit (limit : Int)
  /-- A condition went wrong in a way that is no answer. -/
  | condition (fault : Condition.EvaluationFault)
  /-- A variable has the name that templates reserve. -/
  | reservedVariable
  /-- Clocks with and without a known lead were compared. -/
  | mixedClocks
  /-- A text cannot be cut into pieces without length. -/
  | emptyPieces
  /-- A run has to be allowed at least one step. -/
  | noSteps
  /-- A quotient is too large. -/
  | tooLarge
  /-- A call took too long. -/
  | timedOut
  /-- A service could not be reached. -/
  | unreachable (said : String)
  /-- A service reported an error. -/
  | badStatus (status : Nat)
  /-- A collaborator failed and said this. -/
  | failure (said : String)
  /-- A model cannot be built. -/
  | unbuildable (said : String)
  /-- A collaborator answered and refused what it was given. -/
  | rejected (message : String)
  /-- A value that cannot be worked with. -/
  | refused (message : String)
  /-- Something that should be there is not. -/
  | missing (what : String)

namespace Fault

/-- The summary of a report on a record. -/
def invalidSummary (model : String) (issues : List Issue) : String :=
  decimal issues.length ++ " validation error" ++ (if issues.length = 1 then "" else "s") ++ " for " ++
    model

/-- What is said when no workflow can answer. -/
def noWorkflowMessage (scope : Option String) : String :=
  "No workflow available for scope " ++ (Value.ofText? scope).literal ++
    " and the fallback scope is missing"

/-- What is said when a run is stopped. -/
def stepLimitMessage (limit : Int) : String :=
  "Recursion limit of " ++ decimal limit ++ " reached without hitting a stop condition"

/-- What is said to those who want a run to go on for longer. -/
def stepLimitAdvice : String :=
  "You can increase the limit by setting the `recursion_limit` config key."

/-- What is said about a fault; it may be empty when a collaborator said nothing. -/
def message : Fault → String
  | misfit m => m.message
  | invalid model issues => invalidSummary model issues
  | malformedJson => "malformed JSON"
  | hugeInteger => "Exceeds the limit (" ++ decimal Json.maxIntegerDigits ++
      " digits) for integer string conversion"
  | store message _ => message
  | search _ message => message
  | decision message => message
  | persistence message _ => message
  | noWorkflow scope _ => noWorkflowMessage scope
  | stepLimit limit => stepLimitMessage limit ++ ". " ++ stepLimitAdvice
  | condition _ => "int too large to convert to float"
  | reservedVariable => "BoundTemplate.render() got multiple values for argument 'self'"
  | mixedClocks => "can't compare offset-naive and offset-aware datetimes"
  | emptyPieces => "range() arg 3 must not be zero"
  | noSteps => "recursion_limit must be at least 1"
  | tooLarge => "integer division result too large for a float"
  | timedOut => ""
  | unreachable said => said
  | badStatus status => "status " ++ decimal status
  | failure said => said
  | unbuildable said => said
  | rejected message => message
  | refused message => message
  | missing what => Text.quoted what

/-- What the log says about a fault: its message, or what kind of fault it is. -/
def text (f : Fault) : String :=
  if f.message.isEmpty then
    match f with
    | timedOut => "TimeoutError"
    | failure _ => "RuntimeError"
    | unbuildable _ => "ValueError"
    | refused _ => "ValueError"
    | _ => "Exception"
  else f.message

/-- A text that is no JSON. -/
def ofReadError : Json.ReadError → Fault
  | .malformed _ => malformedJson
  | .hugeInteger => hugeInteger

/-- A result of work on free-form data. -/
def ofMisfit {α : Type} : Except Misfit α → Except Fault α
  | .ok a => .ok a
  | .error m => .error (.misfit m)

/-- A record that was read. -/
def ofChecked {α : Type} (model : String) : Checked α → Except Fault α
  | .valid a => .ok a
  | .invalid issues => .error (.invalid model issues)

end Fault

end Helpdesk
