import Helpdesk.Fault
import Helpdesk.Json.Reader

/-!
# Helpdesk.Http — replies of services.
-/
namespace Helpdesk.Http

/-- What comes back from a service. -/
inductive Reply where
  /-- The service could not be reached. -/
  | unreachable (said : String)
  | answered (status : Nat) (body : String)

/-- Whether a status reports success. -/
def isSuccess (status : Nat) : Bool :=
  200 ≤ status && status < 300

/-- A body without the mark that some services put in front of their text. -/
def withoutMark (body : String) : String :=
  match body.toList with
  | '\uFEFF' :: rest => String.ofList rest
  | _ => body

/-- The record in a body. -/
def record (body : String) : Except Fault Value :=
  match Json.read (withoutMark body) with
  | .ok v => .ok v
  | .error e => .error (.ofReadError e)

end Helpdesk.Http
