import Helpdesk.Answering

/-!
# Helpdesk.Api — the engine as a web service.

The service tells whether it works, checks workflows for their authors, brings the compiled
workflows up to date, and answers tickets. A body that cannot be read is answered with everything
that is wrong with it, and a fault that nobody foresaw with a plain error and a notice.
-/
namespace Helpdesk.Api

variable {σ : Type}

structure Request where
  method : String
  path : String
  /-- The body; empty when there is none. -/
  body : String

structure Response where
  status : Nat
  body : Value

namespace Response

/-- A response that says what is the matter. -/
def saying (status : Nat) (detail : String) : Response :=
  ⟨status, .object [("detail", .text detail)]⟩

def notFound : Response := saying 404 "Not Found"

def methodNotAllowed : Response := saying 405 "Method Not Allowed"

def unreadableBody : Response := saying 400 "There was an error parsing the body"

def internalError : Response := saying 500 "Internal server error"

def unavailable : Response := saying 503 "Services not initialized"

/-- The response to a body with mistakes. -/
def invalidBody (issues : List Issue) : Response :=
  ⟨422, .object [("detail", .ofTexts (issues.map Issue.text))]⟩

/-- The response to a workflow with a flaw. -/
def flawed (flaw : Workflow.Flaw) : Response :=
  ⟨422, .object [("code", .text flaw.code), ("detail", .text flaw.message)]⟩

end Response

/-! ## Paths -/

inductive Endpoint where
  | health
  | validate
  | refresh
  | answer (ticketId : String)
  deriving DecidableEq

namespace Endpoint

/-- The method that an endpoint is asked with. -/
def method : Endpoint → String
  | health => "GET"
  | validate => "POST"
  | refresh => "POST"
  | answer _ => "POST"

/-- The endpoint of a path that is split at its strokes. -/
def ofSegments? : List String → Option Endpoint
  | ["health"] => some health
  | ["workflows", "validate"] => some validate
  | ["workflows", "refresh"] => some refresh
  | ["tickets", id, "ai-response"] => if id.isEmpty then none else some (answer id)
  | _ => none

end Endpoint

/-- Characters with each escaped byte in its place. -/
def bytesOf : List Char → List UInt8
  | '%' :: a :: b :: rest =>
    match Json.hexValue? a, Json.hexValue? b with
    | some high, some low => UInt8.ofNat (16 * high + low) :: bytesOf rest
    | _, _ => "%".toUTF8.toList ++ bytesOf (a :: b :: rest)
  | c :: rest => (String.singleton c).toUTF8.toList ++ bytesOf rest
  | [] => []

/-- A path without its escapes. -/
def unescaped (path : String) : String :=
  (String.fromUTF8? ⟨(bytesOf path.toList).toArray⟩).getD path

/-- The parts of a text between the strokes in it. -/
def segmentsOf : List Char → List (List Char)
  | [] => [[]]
  | c :: rest =>
    if c = '/' then [] :: segmentsOf rest
    else
      match segmentsOf rest with
      | segment :: more => (c :: segment) :: more
      | [] => [[c]]

/-- The parts of a path, without the query behind it; a stroke at its end does not matter. -/
def Request.segments (r : Request) : List String :=
  let path := r.path.toList.takeWhile fun c => c != '?' && c != '#'
  match (segmentsOf (unescaped (String.ofList path)).toList).map String.ofList with
  | "" :: segments => if segments.getLast? = some "" then segments.dropLast else segments
  | _ => []

/-- The endpoint of a request. -/
def Request.endpoint? (r : Request) : Option Endpoint :=
  Endpoint.ofSegments? r.segments

/-! ## Bodies -/

/-- An issue in a body, where what should be a record can be anything with members. -/
def bodyIssue (issue : Issue) : Issue :=
  { issue with
    place := "body" :: issue.place
    problem := if issue.problem = .recordType then .attributesType else issue.problem }

/-- The value in a body; nothing when the body is empty or null. -/
def bodyValue? (body : String) : Except Response (Option Value) :=
  if body.isEmpty then .ok none
  else
    match Json.read (Http.withoutMark body) with
    | .ok .null => .ok none
    | .ok v => .ok (some v)
    | .error .hugeInteger => .error .unreadableBody
    | .error e =>
      .error (.invalidBody [⟨["body", decimal (e.position (Http.withoutMark body))], .malformedJson⟩])

/-- The record in a body that may be missing. -/
def optionalBody {α : Type} (shape : Shape α) (otherwise : α) (body : String) :
    Except Response α := do
  match ← bodyValue? body with
  | none => return otherwise
  | some v =>
    match shape v with
    | .valid a => return a
    | .invalid issues => throw (.invalidBody (issues.map bodyIssue))

/-- The record in a body. -/
def requiredBody {α : Type} (shape : Shape α) (body : String) : Except Response α := do
  match ← optionalBody (fun v => (shape v).map some) none body with
  | some a => return a
  | none => throw (.invalidBody [⟨["body"], .missing⟩])

/-- What a request for an answer may say. -/
structure AnswerRequest where
  isTest : Bool
  deriving DecidableEq

namespace AnswerRequest

/-- Reads what a request for an answer says. -/
def shape : Shape AnswerRequest := Shape.record fun e =>
  AnswerRequest.mk <$> Shape.optional ["is_workflow_test"] .bool false e

/-- A request for an answer as a record. -/
def toValue (r : AnswerRequest) : Value :=
  .object [("is_workflow_test", .bool r.isTest)]

end AnswerRequest

/-! ## Endpoints -/

/-- Whether the service works. -/
def health (sv : Services σ) : Duty σ Response := do
  let healthy ← Duty.ofWork (Knowledge.isHealthy sv.store)
  return ⟨200, .object [
    ("status", .text (if healthy then "healthy" else "degraded")),
    ("vector_store", .bool healthy),
    ("scopes", .int (← get).workflows.scopes.length)]⟩

/-- Checks a workflow without putting it into use. -/
def validate (sv : Services σ) (d : Workflow.Definition) : Duty σ Response := do
  let (notices, compiled) := d.compile sv.settings.workflowRecursionLimit
  Duty.noteAll notices
  match compiled with
  | .ok w =>
    return ⟨200, .object [
      ("workflow_id", .text w.workflowId),
      ("valid", .bool true),
      ("nodes", .ofTexts w.stepIds),
      ("excluded_nodes", .ofTexts w.excluded),
      ("has_cycle", .bool w.hasCycle)]⟩
  | .error flaw =>
    Duty.note (.warning "workflow_rejected" [("code", .text flaw.code)])
    return .flawed flaw

/-- The response to a request that met a fault which nobody foresaw. -/
def unforeseen : Duty σ Response := do
  Duty.note (.error "unhandled_exception" [])
  return .internalError

/-- Brings the compiled workflows up to date. -/
def refresh (sv : Services σ) : Duty σ Response := do
  match ← Duty.outcome (Workflow.refresh sv) with
  | .error _ => unforeseen
  | .ok _ =>
    let w := (← get).workflows
    return ⟨200, .object [
      ("scopes", .ofTexts w.scopes.names),
      ("workflow_count", .int w.workflows.length)]⟩

/-- Answers a ticket. -/
def answer (sv : Services σ) (ticketId : String) (r : AnswerRequest) : Duty σ Response := do
  match ← Duty.outcome (Task.lookUp sv fun b => b.ticket? r.isTest ticketId) with
  | .error _ => unforeseen
  | .ok none => return .saying 404 ("Ticket " ++ ticketId ++ " not found")
  | .ok (some t) =>
    match ← Duty.outcome (Helpdesk.answer sv t r.isTest) with
    | .ok text =>
      return ⟨200, .object [
        ("ticket_id", .text ticketId),
        ("response", .text text),
        ("rich_text", RichText.ofReply text)]⟩
    | .error (.noWorkflow scope available) =>
      Duty.note (.error "workflow_not_found" [("ticket_id", .text ticketId)])
      return .saying 503 (Fault.noWorkflow scope available).message
    | .error _ => unforeseen

/-- What an endpoint does with a body. -/
def Endpoint.respond (body : String) : Endpoint → Except Response (Services σ → Duty σ Response)
  | .health => .ok Api.health
  | .refresh => .ok Api.refresh
  | .validate => do
    let d ← requiredBody Workflow.Definition.shape body
    return fun sv => Api.validate sv d
  | .answer ticketId => do
    let r ← optionalBody AnswerRequest.shape ⟨false⟩ body
    return fun sv => Api.answer sv ticketId r

/-- The response to a request; without services there is only an apology. -/
def handle (services : Option (Services σ)) (r : Request) : Duty σ Response :=
  match r.endpoint? with
  | none => return .notFound
  | some endpoint =>
    if endpoint.method ≠ r.method then return .methodNotAllowed
    else
      match endpoint.respond r.body, services with
      | .error response, _ => return response
      | .ok _, none => return .unavailable
      | .ok respond, some sv => respond sv

/-- What the service does before its first request. -/
def start (sv : Services σ) : Duty σ Unit := do
  match ← Duty.outcome (Workflow.refresh sv) with
  | .ok _ => return ()
  | .error fault =>
    Duty.note (.error "workflow_cache_initialization_failed" [("error", .text fault.message)])

end Helpdesk.Api
