import Helpdesk.Workflow.Refresh
import Helpdesk.Workflow.Run

/-!
# Helpdesk.Answering — the answer to the latest turn of a ticket.

A ticket is answered by the workflow that its module is bound to, or by the one of the fallback
scope. A run that ends without a reply, or does not end well, is tried again a few times, each time
from the same conversation. When no attempt gives a reply the answer is empty.
-/
namespace Helpdesk

open Conversation Workflow

variable {σ : Type}

/-- The conversation of a ticket as its workflow sees it. -/
def conversationOf (sv : Services σ) (t : Ticket) (isTest : Bool) : Task σ (List Turn) := do
  let messages ← Task.inBook sv fun b => do return (← b.conversation isTest t.id, b)
  Task.ofMisfit (messages.mapM Turn.ofMessage)

/-- The workflow that answers a ticket. -/
def workflowFor (sv : Services σ) (t : Ticket) : Task σ Compiled := do
  match (← get).workflows.workflow? t.module with
  | some w => return w
  | none =>
    match ← Task.sure (fallback? sv) with
    | some w => return w
    | none => throw (.noWorkflow t.module (← get).workflows.scopes.names)

/-- The reply in the state at the end of a run. -/
def replyOf (s : State) : String :=
  ((s.fields.response.getD .null).text?).getD ""

/-- What is noted about an attempt that gave no reply. -/
def attemptNotice (w : Compiled) (t : Ticket) (attempt : Nat) : Except Fault State → Notice
  | .ok _ => .warning "ai_response_empty" [("ticket_id", .text t.id), ("attempt", .int attempt),
      ("workflow_id", .text w.workflowId)]
  | .error fault => .error "workflow_invoke_failed" [("ticket_id", .text t.id),
      ("attempt", .int attempt), ("error", .text fault.text)]

/-- The reply of an attempt; nothing when it gave none. -/
def replied? : Except Fault State → Option String
  | .ok s => some (replyOf s) |>.filter (!·.isEmpty)
  | .error _ => none

/-- The first reply of so many attempts, where `attempt` is the number of the first one. -/
def firstReply (sv : Services σ) (w : Compiled) (t : Ticket) (turns : List Turn) (attempt : Nat) :
    Nat → Duty σ (Option String)
  | 0 => return none
  | attempts + 1 => do
    let result ← Duty.outcome (w.invoke sv (.start turns t.summary []))
    match replied? result with
    | some text => return some text
    | none =>
      Duty.note (attemptNotice w t attempt result)
      firstReply sv w t turns (attempt + 1) attempts

/-- The answer to the latest turn of a ticket. -/
def answer (sv : Services σ) (t : Ticket) (isTest : Bool) : Task σ String := do
  let turns ← conversationOf sv t isTest
  let w ← workflowFor sv t
  let attempts := (sv.settings.runtimeMaxRetries + 1).toNat
  match ← Task.sure (firstReply sv w t turns 0 attempts) with
  | some text => return text
  | none =>
    Task.note (.warning "ai_response_exhausted" [("ticket_id", .text t.id)])
    return ""

end Helpdesk
