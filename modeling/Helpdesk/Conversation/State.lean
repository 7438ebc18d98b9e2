import Helpdesk.Conversation.Turn
import Helpdesk.Knowledge.Hit

/-!
# Helpdesk.Conversation.State — what a run of a workflow knows.

A run starts from the conversation and the ticket, and its nodes fill in the rest. A node answers
with some fields; they take the place of the earlier ones, except that variables are merged entry by
entry. Fields that were never written are told apart from fields that hold null.
-/
namespace Helpdesk.Conversation

/-- The fields that a run may write. -/
structure Fields where
  userQuery : Option Value := none
  sentiment : Option Value := none
  handoffRequired : Option Value := none
  handoffReason : Option Value := none
  handoffPriority : Option Value := none
  proposeEscalation : Option Value := none
  escalationReason : Option Value := none
  searchQueries : Option Value := none
  context : Option (List Knowledge.Hit) := none
  response : Option Value := none
  vars : Option Entries := none

/-- Variables with further ones written over them. -/
def mergeVariables (current update : Option Entries) : Entries :=
  Entries.putAll (current.getD []) (update.getD [])

namespace Fields

/-- Fields with further ones written over them. -/
def write (old new : Fields) : Fields where
  userQuery := new.userQuery.or old.userQuery
  sentiment := new.sentiment.or old.sentiment
  handoffRequired := new.handoffRequired.or old.handoffRequired
  handoffReason := new.handoffReason.or old.handoffReason
  handoffPriority := new.handoffPriority.or old.handoffPriority
  proposeEscalation := new.proposeEscalation.or old.proposeEscalation
  escalationReason := new.escalationReason.or old.escalationReason
  searchQueries := new.searchQueries.or old.searchQueries
  context := new.context.or old.context
  response := new.response.or old.response
  vars :=
    if new.vars.isNone then old.vars
    else some (mergeVariables old.vars new.vars)

/-- Fields from entries under their names, and the hits among them. -/
def ofEntries (e : Entries) (context : Option (List Knowledge.Hit)) : Fields where
  userQuery := Entries.value? "user_query" e
  sentiment := Entries.value? "sentiment_label" e
  handoffRequired := Entries.value? "handoff_required" e
  handoffReason := Entries.value? "handoff_reason" e
  handoffPriority := Entries.value? "handoff_priority" e
  proposeEscalation := Entries.value? "propose_escalation" e
  escalationReason := Entries.value? "escalation_reason" e
  searchQueries := Entries.value? "search_queries" e
  context := context
  response := Entries.value? "response" e
  vars := (Entries.value? "variables" e).map fun v => (v.entries?).getD []

/-- The written fields as entries. -/
def toEntries (f : Fields) : Entries :=
  let entry := fun (name : String) (v : Option Value) => (v.map fun v => (name, v)).toList
  entry "user_query" f.userQuery ++
    entry "sentiment_label" f.sentiment ++
    entry "handoff_required" f.handoffRequired ++
    entry "handoff_reason" f.handoffReason ++
    entry "handoff_priority" f.handoffPriority ++
    entry "propose_escalation" f.proposeEscalation ++
    entry "escalation_reason" f.escalationReason ++
    entry "search_queries" f.searchQueries ++
    entry "retrieved_context" (f.context.map fun hits => .list (hits.map Knowledge.Hit.toValue)) ++
    entry "response" f.response ++
    entry "variables" (f.vars.map .object)

end Fields

structure State where
  turns : List Turn
  /-- What the workflow is told about the ticket; empty when there is none. -/
  ticket : Entries
  fields : Fields

namespace State

/-- The names of everything that a state holds. -/
def names : List String :=
  ["messages", "current_ticket", "user_query", "sentiment_label", "handoff_required",
    "handoff_reason", "handoff_priority", "propose_escalation", "escalation_reason",
    "search_queries", "retrieved_context", "response", "variables"]

/-- The fields of a fresh state. -/
def freshFields (vars : Entries) : Fields where
  userQuery := some (.text "")
  sentiment := some (.text Sentiment.neutral.name)
  handoffRequired := some (.bool false)
  handoffReason := some (.text "")
  handoffPriority := some (.text Priority.p2.name)
  proposeEscalation := some (.bool false)
  escalationReason := some (.text "")
  searchQueries := some (.list [])
  context := some []
  response := some (.text "")
  vars := some vars

/-- The state that a run starts from. -/
def start (turns : List Turn) (ticket : Entries) (vars : Entries) : State :=
  ⟨turns, ticket, freshFields vars⟩

/-- A state after a node has answered. -/
def write (s : State) (update : Fields) : State :=
  { s with fields := s.fields.write update }

/-- The identifier of the ticket, null when there is none. -/
def ticketId (s : State) : Value :=
  (Entries.value? "id" s.ticket).getD .null

end State

end Helpdesk.Conversation
