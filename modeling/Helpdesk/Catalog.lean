import Helpdesk.Api
import Helpdesk.Decision
import Helpdesk.Workflow.Definition

/-!
# Helpdesk.Catalog — every kind of record under its name.

Authors, models and services exchange records of a fixed number of kinds. Each of them is checked by
reading it, and reading it back from what was read is the same as reading it once.
-/
namespace Helpdesk.Catalog

/-- A record as it is understood, or everything that is wrong with it. -/
abbrev Check := Value → Checked Value

/-- Reads a record and writes what was read. -/
def check {α : Type} (shape : Shape α) (toValue : α → Value) : Check :=
  fun v => (shape v).map toValue

/-- Checks a node that has to be of a kind. -/
def checkNode (kind : Workflow.NodeKind) : Check :=
  check (Workflow.Node.shapeOf kind) Workflow.Node.toValue

/-- Tickets, messages and handoffs. -/
def ofTickets : Keyed Check := [
  ("Ticket", check Ticket.shape Ticket.toValue),
  ("ChatMessage", check Message.shape Message.toValue),
  ("HandoffRecord", check HandoffRecord.shape HandoffRecord.toValue)]

/-- The knowledge base. -/
def ofKnowledge : Keyed Check := [
  ("SearchHit", check Knowledge.Hit.shape Knowledge.Hit.toValue),
  ("KBFilter", check Knowledge.Filter.shape Knowledge.Filter.toValue),
  ("KBChunk", check Knowledge.Chunk.shape Knowledge.Chunk.toValue)]

open Workflow in
/-- What authors write. -/
def ofWorkflows : Keyed Check := [
  ("AIRoleConfig", check Binding.shape Binding.toValue),
  ("WorkflowEdge", check Edge.shape Edge.toValue),
  ("WorkflowDefinition", check Definition.shape Definition.toValue),
  ("LLMOverride", check ModelChoice.shape ModelChoice.toValue),
  ("EmotionDetectionConfig", check EmotionConfig.shape EmotionConfig.toValue),
  ("IntentAnalysisConfig", check IntentConfig.shape IntentConfig.toValue),
  ("RagConfig", check RagConfig.shape RagConfig.toValue),
  ("VisionConfig", check VisionConfig.shape VisionConfig.toValue),
  ("SmartChatConfig", check SmartChatConfig.shape SmartChatConfig.toValue),
  ("EscalationOfferConfig", check EscalationConfig.shape EscalationConfig.toValue),
  ("HandoffConfig", check HandoffConfig.shape HandoffConfig.toValue),
  ("StartNode", checkNode .start),
  ("EndNode", checkNode .finish),
  ("EmotionDetectorNode", checkNode .emotionDetector),
  ("RagNode", checkNode .rag),
  ("SmartChatNode", checkNode .smartChat),
  ("EscalationOfferNode", checkNode .escalationOffer),
  ("HandoffNode", checkNode .handoff)]

open Decision in
/-- What models decide. -/
def ofDecisions : Keyed Check := [
  ("SentimentDecision", check Mood.shape Mood.toValue),
  ("SearchDecision", check SearchNeed.shape SearchNeed.toValue),
  ("SearchQueries", check Queries.shape Queries.toValue),
  ("EscalationDecision", check Escalation.shape Escalation.toValue),
  ("KnowledgeSummary", check Summary.shape Summary.toValue)]

/-- What clients of the service send. -/
def ofService : Keyed Check := [
  ("AIResponseRequest", check Api.AnswerRequest.shape Api.AnswerRequest.toValue)]

/-- A kind of record that configures an action. -/
def configuring {α : Type} (name : String) (shape : Shape α) (make : α → Workflow.Action) :
    String × Shape Workflow.Action :=
  (name, fun v => (shape v).map make)

open Workflow in
/-- The record that configures an action, under the name of the action's kind. -/
def ofActions : Keyed (String × Shape Action) := [
  ("emotionDetector", configuring "EmotionDetectionConfig" EmotionConfig.shape .emotionDetector),
  ("rag", configuring "RagConfig" RagConfig.shape .rag),
  ("smartChat", configuring "SmartChatConfig" SmartChatConfig.shape .smartChat),
  ("escalationOffer",
    configuring "EscalationOfferConfig" EscalationConfig.shape .escalationOffer),
  ("handoff", configuring "HandoffConfig" HandoffConfig.shape .handoff)]

/-- All kinds of record. -/
def all : Keyed Check :=
  ofTickets ++ ofKnowledge ++ ofWorkflows ++ ofDecisions ++ ofService

/-- How a record of a kind is checked. -/
def check? (name : String) : Option Check :=
  all.get? name

/-- An action of a kind, from its configuration. -/
def action? (kind : String) (config : Value) : Option (Except Fault Workflow.Action) :=
  (ofActions.get? kind).map fun (name, shape) => Fault.ofChecked name (shape config)

end Helpdesk.Catalog
