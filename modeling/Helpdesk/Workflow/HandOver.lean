import Helpdesk.Handoff.Delivery
import Helpdesk.Workflow.Mood

/-!
# Helpdesk.Workflow.HandOver — handing a ticket to a human.

A handoff writes at most one record for a ticket, moves the ticket to those that wait for a human,
and has the team told unless it was told already or is just being told. Tickets of workflow tests
are not handed over. The customer gets the message of the step whatever becomes of the rest.
-/
namespace Helpdesk.Workflow

open Conversation Handoff

variable {σ : Type}

/-- The reason for a handoff that nobody gave a reason for. -/
def defaultHandoffReason : String := "需要人工协助"

/-- The reason that is written into a record. -/
def handoffReason (bag : Entries) : Value :=
  ((Entries.value? "handoffReason" bag).getD .null).orElse (.text defaultHandoffReason)

/-- The record of a handoff, as it is first written. -/
def handoffRecord (s : State) (bag : Entries) (t : Ticket) : Except Fault HandoffRecord :=
  Fault.ofChecked "HandoffRecord" (HandoffRecord.shape (.object [
    ("ticket_id", .text t.id),
    ("handoff_reason", handoffReason bag),
    ("priority", s.fields.handoffPriority.getD (.text Priority.p2.name)),
    ("sentiment", s.fields.sentiment.getD (.text Sentiment.neutral.name)),
    ("customer_id", .ofInt? t.customerId),
    ("assigned_agent_id", .ofInt? t.agentId),
    ("user_query", ((Entries.value? "userQuery" bag).getD .null).orElse (.text ""))]))

/-- What a ticket is looked up by; only texts find one. -/
def ticketKey (id : Value) : Except Fault (Option String) :=
  match id with
  | .text s => .ok (some s)
  | .list _ => .error (.misfit (.notKey .list))
  | .object _ => .error (.misfit (.notKey .object))
  | _ => .ok none

/-- A ticket of production or of tests, by whatever stands for its identifier. -/
def findTicket (sv : Services σ) (isTest : Bool) (id : Value) : Task σ (Option Ticket) := do
  Task.inBook sv fun b => do
    return ((← ticketKey id).bind (b.ticket? isTest), b)

/-- The record of a ticket, written when there is none, and whether the team is to be told. -/
def recordFor (sv : Services σ) (s : State) (bag : Entries) (t : Ticket) :
    Task σ (HandoffRecord × Bool) := do
  match ← Task.lookUp sv fun b => b.record? t.id with
  | some record => return (record, !record.notificationSent)
  | none =>
    let draft ← Task.ofExcept (handoffRecord s bag t)
    let (record, isNew) ← Task.inBook sv fun b => .ok (b.addRecord draft)
    return (record, isNew || !record.notificationSent)

/-- Hands over a ticket of production. -/
def handOverTicket (sv : Services σ) (channel : String) (s : State) (bag : Entries) (t : Ticket) :
    Task σ Unit := do
  let (record, shouldTell) ← recordFor sv s bag t
  if t.status ≠ .pending then
    Task.inBook sv fun b => do return ((), ← b.setStatus t.id .pending)
  if shouldTell && !(← get).outbox.isInFlight record.id then
    let _ ← Task.sure (dispatch record t channel)

/-- Hands over the ticket of a run. -/
def arrange (sv : Services σ) (channel : String) (s : State) (bag : Entries) : Task σ Unit := do
  let id := s.ticketId
  if !id.counts then throw (.persistence "No ticket id in workflow state" [])
  let testTicket ← findTicket sv true id
  match ← findTicket sv false id with
  | some t => handOverTicket sv channel s bag t
  | none =>
    if testTicket.isNone then
      throw (.persistence ("Ticket " ++ id.plainText ++ " not found") [("ticket_id", id)])

/-- What is known after a handoff. -/
def handoffFields (text : String) : Fields where
  response := some (.text text)

/-- The step that hands a ticket to a human. -/
def handOver (sv : Services σ) (c : HandoffConfig) (s : State) : Task σ Fields := do
  let bag ← Task.ofMisfit (bag s)
  let text ← Task.fill c.messageTemplate bag
  match ← Task.sure (Duty.outcome (arrange sv c.notifyChannel s bag)) with
  | .ok _ => pure ()
  | .error fault => Task.note (stepNotice true "handoff_failed" s fault.text)
  return handoffFields text

end Helpdesk.Workflow
