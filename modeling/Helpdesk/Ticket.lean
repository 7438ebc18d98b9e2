import Helpdesk.Moment

/-!
# Helpdesk.Ticket — tickets, their messages and handoffs to human agents.

A ticket belongs to a customer and is answered by the engine until it is handed to a human. Ticket
descriptions and message bodies are free-form values, because editors and old imports disagree about
their form. A handoff record notes why a ticket was handed over; there is at most one for a ticket.
-/
namespace Helpdesk

/-- Where a ticket stands. -/
inductive TicketStatus where
  /-- Waiting for a human agent. -/
  | pending
  | inProgress
  | resolved
  | scheduled
  deriving DecidableEq

namespace TicketStatus

/-- The statuses under their stored names. -/
def names : List (String × TicketStatus) :=
  [("pending", pending), ("in_progress", inProgress), ("resolved", resolved),
    ("scheduled", scheduled)]

/-- The stored name of a status. -/
def name : TicketStatus → String
  | pending => "pending"
  | inProgress => "in_progress"
  | resolved => "resolved"
  | scheduled => "scheduled"

end TicketStatus

/-- How soon a human should look at a ticket. -/
inductive Priority where
  | p1 | p2 | p3
  deriving DecidableEq

namespace Priority

/-- The priorities under their names. -/
def names : List (String × Priority) := [("P1", p1), ("P2", p2), ("P3", p3)]

/-- The name of a priority. -/
def name : Priority → String
  | p1 => "P1"
  | p2 => "P2"
  | p3 => "P3"

end Priority

/-- What the customer feels. -/
inductive Sentiment where
  | neutral | frustrated | angry | requestAgent | abusive | confused | anxious | satisfied
  deriving DecidableEq

namespace Sentiment

/-- The name of a sentiment. -/
def name : Sentiment → String
  | neutral => "NEUTRAL"
  | frustrated => "FRUSTRATED"
  | angry => "ANGRY"
  | requestAgent => "REQUEST_AGENT"
  | abusive => "ABUSIVE"
  | confused => "CONFUSED"
  | anxious => "ANXIOUS"
  | satisfied => "SATISFIED"

/-- All sentiments. -/
def all : List Sentiment :=
  [neutral, frustrated, angry, requestAgent, abusive, confused, anxious, satisfied]

/-- The sentiments under their names. -/
def names : List (String × Sentiment) :=
  all.map fun s => (s.name, s)

end Sentiment

structure Ticket where
  id : String
  title : String
  /-- A rich-text document or plain text. -/
  description : Value
  module : Option String
  category : Option String
  status : TicketStatus
  customerId : Option Int
  agentId : Option Int
  priority : Option String
  area : Option String

namespace Ticket

/-- Reads a ticket. -/
def shape : Shape Ticket := Shape.record fun e =>
  Ticket.mk
    <$> Shape.required ["id"] .text e
    <*> Shape.optional ["title"] .text "" e
    <*> Shape.optional ["description"] .any .null e
    <*> Shape.optional ["module"] (.orNull .text) none e
    <*> Shape.optional ["category"] (.orNull .text) none e
    <*> Shape.optional ["status"] (.choiceOf .choice TicketStatus.names) .inProgress e
    <*> Shape.optional ["customer_id"] (.orNull .int) none e
    <*> Shape.optional ["agent_id"] (.orNull .int) none e
    <*> Shape.optional ["priority"] (.orNull .text) none e
    <*> Shape.optional ["area"] (.orNull .text) none e

/-- A ticket as a record. -/
def toValue (t : Ticket) : Value :=
  .object [
    ("id", .text t.id),
    ("title", .text t.title),
    ("description", t.description),
    ("module", .ofText? t.module),
    ("category", .ofText? t.category),
    ("status", .text t.status.name),
    ("customer_id", .ofInt? t.customerId),
    ("agent_id", .ofInt? t.agentId),
    ("priority", .ofText? t.priority),
    ("area", .ofText? t.area)]

/-- What a workflow is told about a ticket. -/
def summary (t : Ticket) : Entries :=
  [("id", .text t.id),
    ("title", .text t.title),
    ("module", .ofText? t.module),
    ("category", .ofText? t.category),
    ("description", t.description)]

end Ticket

/-- A stored message of a ticket. -/
structure Message where
  id : Int
  ticketId : String
  senderId : Option Int
  senderRole : Option String
  content : Value
  createdAt : Moment
  /-- Only staff may see it. -/
  isInternal : Bool
  withdrawn : Bool

namespace Message

/-- Reads a message. -/
def shape : Shape Message := Shape.record fun e =>
  Message.mk
    <$> Shape.required ["id"] .int e
    <*> Shape.required ["ticket_id"] .text e
    <*> Shape.optional ["sender_id"] (.orNull .int) none e
    <*> Shape.optional ["sender_role"] (.orNull .text) none e
    <*> Shape.optional ["content"] .any (.text "") e
    <*> Shape.required ["created_at"] Moment.shape e
    <*> Shape.optional ["is_internal"] .bool false e
    <*> Shape.optional ["withdrawn"] .bool false e

/-- A message as a record. -/
def toValue (m : Message) : Value :=
  .object [
    ("id", .int m.id),
    ("ticket_id", .text m.ticketId),
    ("sender_id", .ofInt? m.senderId),
    ("sender_role", .ofText? m.senderRole),
    ("content", m.content),
    ("created_at", .text m.createdAt.text),
    ("is_internal", .bool m.isInternal),
    ("withdrawn", .bool m.withdrawn)]

/-- Whether the customer and the engine may see a message. -/
def isVisible (m : Message) : Bool :=
  !m.isInternal && !m.withdrawn

end Message

/-- The note of a handoff. -/
structure HandoffRecord where
  id : Option Int
  ticketId : String
  reason : String
  priority : Priority
  sentiment : Sentiment
  customerId : Option Int
  assignedAgentId : Option Int
  userQuery : String
  notificationSent : Bool
  notificationError : Option String
  deriving DecidableEq

namespace HandoffRecord

/-- Reads a handoff record. -/
def shape : Shape HandoffRecord := Shape.record fun e =>
  HandoffRecord.mk
    <$> Shape.optional ["id"] (.orNull .int) none e
    <*> Shape.required ["ticket_id"] .text e
    <*> Shape.required ["handoff_reason"] .text e
    <*> Shape.optional ["priority"] (.choiceOf .choice Priority.names) .p2 e
    <*> Shape.optional ["sentiment"] (.choiceOf .choice Sentiment.names) .neutral e
    <*> Shape.optional ["customer_id"] (.orNull .int) none e
    <*> Shape.optional ["assigned_agent_id"] (.orNull .int) none e
    <*> Shape.optional ["user_query"] .text "" e
    <*> Shape.optional ["notification_sent"] .bool false e
    <*> Shape.optional ["notification_error"] (.orNull .text) none e

/-- A handoff record as a record. -/
def toValue (r : HandoffRecord) : Value :=
  .object [
    ("id", .ofInt? r.id),
    ("ticket_id", .text r.ticketId),
    ("handoff_reason", .text r.reason),
    ("priority", .text r.priority.name),
    ("sentiment", .text r.sentiment.name),
    ("customer_id", .ofInt? r.customerId),
    ("assigned_agent_id", .ofInt? r.assignedAgentId),
    ("user_query", .text r.userQuery),
    ("notification_sent", .bool r.notificationSent),
    ("notification_error", .ofText? r.notificationError)]

end HandoffRecord

end Helpdesk
