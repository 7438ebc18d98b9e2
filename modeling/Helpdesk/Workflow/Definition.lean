import Helpdesk.Validation

/-!
# Helpdesk.Workflow.Definition — workflows as their authors write them.

A workflow is a graph of nodes: one start, ends, and steps that do something. Edges may carry a
condition. Authors use camel-case names; records that were written by the engine use names with
underscores, and both are read. Where both are present the author's name counts. Identifiers may be
written as any value and are texts from then on.
-/
namespace Helpdesk.Workflow

/-! ## Configuration of steps -/

/-- Which model a step talks to; what is not set comes from the settings. -/
structure ModelChoice where
  apiKey : Option String
  baseUrl : Option String
  model : Option String
  deriving DecidableEq

namespace ModelChoice

/-- Reads a choice of model. -/
def shape : Shape ModelChoice := Shape.record fun e =>
  ModelChoice.mk
    <$> Shape.optional ["apiKey", "api_key"] (.orNull .text) none e
    <*> Shape.optional ["baseURL", "base_url"] (.orNull .text) none e
    <*> Shape.optional ["model"] (.orNull .text) none e

/-- A choice of model as a record. -/
def toValue (c : ModelChoice) : Value :=
  .object [
    ("api_key", .ofText? c.apiKey),
    ("base_url", .ofText? c.baseUrl),
    ("model", .ofText? c.model)]

end ModelChoice

/-- An optional record, null when it is absent. -/
def valueOf? {α : Type} (toValue : α → Value) (a : Option α) : Value :=
  (a.map toValue).getD .null

/-- The prompts and the model of a step that asks for a decision. -/
structure EmotionConfig where
  systemPrompt : String
  userPrompt : String
  llm : Option ModelChoice
  deriving DecidableEq

namespace EmotionConfig

/-- Reads the configuration of an emotion detector. -/
def shape : Shape EmotionConfig := Shape.record fun e =>
  EmotionConfig.mk
    <$> Shape.optional ["systemPrompt", "system_prompt"] .text "" e
    <*> Shape.optional ["userPrompt", "user_prompt"] .text "" e
    <*> Shape.optional ["llm"] (.orNull ModelChoice.shape) none e

/-- The configuration as a record. -/
def toValue (c : EmotionConfig) : Value :=
  .object [
    ("system_prompt", .text c.systemPrompt),
    ("user_prompt", .text c.userPrompt),
    ("llm", valueOf? ModelChoice.toValue c.llm)]

/-- The configuration of a step that has none. -/
def default : EmotionConfig := ⟨"", "", none⟩

end EmotionConfig

/-- How a retrieval step finds out whether to search. -/
structure IntentConfig where
  systemPrompt : String
  userPrompt : String
  llm : Option ModelChoice
  deriving DecidableEq

namespace IntentConfig

/-- Reads the configuration of the question whether to search. -/
def shape : Shape IntentConfig := Shape.record fun e =>
  IntentConfig.mk
    <$> Shape.optional ["intentAnalysisSystemPrompt", "system_prompt"] .text "" e
    <*> Shape.optional ["intentAnalysisUserPrompt", "user_prompt"] .text "" e
    <*> Shape.optional ["intentAnalysisLLM", "llm"] (.orNull ModelChoice.shape) none e

/-- The configuration as a record. -/
def toValue (c : IntentConfig) : Value :=
  .object [
    ("system_prompt", .text c.systemPrompt),
    ("user_prompt", .text c.userPrompt),
    ("llm", valueOf? ModelChoice.toValue c.llm)]

end IntentConfig

/-- How a retrieval step decides whether and what to search. -/
structure RagConfig where
  enableIntentAnalysis : Bool
  intentAnalysis : Option IntentConfig
  querySystemPrompt : String
  queryUserPrompt : String
  queryLlm : Option ModelChoice
  deriving DecidableEq

namespace RagConfig

/-- Reads the configuration of a retrieval step. -/
def shape : Shape RagConfig := Shape.record fun e =>
  RagConfig.mk
    <$> Shape.optional ["enableIntentAnalysis", "enable_intent_analysis"] .bool false e
    <*> Shape.optional ["intentAnalysisConfig", "intent_analysis"]
      (.orNull IntentConfig.shape) none e
    <*> Shape.optional ["generateSearchQueriesSystemPrompt", "query_system_prompt"] .text "" e
    <*> Shape.optional ["generateSearchQueriesUserPrompt", "query_user_prompt"] .text "" e
    <*> Shape.optional ["generateSearchQueriesLLM", "query_llm"]
      (.orNull ModelChoice.shape) none e

/-- The configuration as a record. -/
def toValue (c : RagConfig) : Value :=
  .object [
    ("enable_intent_analysis", .bool c.enableIntentAnalysis),
    ("intent_analysis", valueOf? IntentConfig.toValue c.intentAnalysis),
    ("query_system_prompt", .text c.querySystemPrompt),
    ("query_user_prompt", .text c.queryUserPrompt),
    ("query_llm", valueOf? ModelChoice.toValue c.queryLlm)]

/-- The configuration of a step that has none. -/
def default : RagConfig := ⟨false, none, "", "", none⟩

end RagConfig

/-- Which images a chat step may show to the model. -/
structure VisionConfig where
  includeTicketDescriptionImages : Bool
  deriving DecidableEq

namespace VisionConfig

/-- Reads which images are shown. -/
def shape : Shape VisionConfig := Shape.record fun e =>
  VisionConfig.mk <$> Shape.optional
    ["includeTicketDescriptionImages", "include_ticket_description_images"] .bool false e

/-- The configuration as a record. -/
def toValue (c : VisionConfig) : Value :=
  .object [("include_ticket_description_images", .bool c.includeTicketDescriptionImages)]

end VisionConfig

/-- How a chat step answers. -/
structure SmartChatConfig where
  systemPrompt : String
  userPrompt : String
  llm : Option ModelChoice
  enableVision : Bool
  vision : Option VisionConfig
  deriving DecidableEq

namespace SmartChatConfig

/-- Reads the configuration of a chat step. -/
def shape : Shape SmartChatConfig := Shape.record fun e =>
  SmartChatConfig.mk
    <$> Shape.optional ["systemPrompt", "system_prompt"] .text "" e
    <*> Shape.optional ["userPrompt", "user_prompt"] .text "" e
    <*> Shape.optional ["llm"] (.orNull ModelChoice.shape) none e
    <*> Shape.optional ["enableVision", "enable_vision"] .bool false e
    <*> Shape.optional ["visionConfig", "vision"] (.orNull VisionConfig.shape) none e

/-- The configuration as a record. -/
def toValue (c : SmartChatConfig) : Value :=
  .object [
    ("system_prompt", .text c.systemPrompt),
    ("user_prompt", .text c.userPrompt),
    ("llm", valueOf? ModelChoice.toValue c.llm),
    ("enable_vision", .bool c.enableVision),
    ("vision", valueOf? VisionConfig.toValue c.vision)]

/-- The configuration of a step that has none. -/
def default : SmartChatConfig := ⟨"", "", none, false, none⟩

end SmartChatConfig

/-- How a step decides whether to offer a human agent, and what it says then. -/
structure EscalationConfig where
  systemPrompt : String
  userPrompt : String
  offerMessageTemplate : String
  llm : Option ModelChoice
  deriving DecidableEq

namespace EscalationConfig

/-- Reads the configuration of an escalation offer. -/
def shape : Shape EscalationConfig := Shape.record fun e =>
  EscalationConfig.mk
    <$> Shape.optional ["systemPrompt", "system_prompt"] .text "" e
    <*> Shape.optional ["userPrompt", "user_prompt"] .text "" e
    <*> Shape.optional ["escalationOfferMessageTemplate", "offer_message_template"] .text "" e
    <*> Shape.optional ["llm"] (.orNull ModelChoice.shape) none e

/-- The configuration as a record. -/
def toValue (c : EscalationConfig) : Value :=
  .object [
    ("system_prompt", .text c.systemPrompt),
    ("user_prompt", .text c.userPrompt),
    ("offer_message_template", .text c.offerMessageTemplate),
    ("llm", valueOf? ModelChoice.toValue c.llm)]

/-- The configuration of a step that has none. -/
def default : EscalationConfig := ⟨"", "", "", none⟩

end EscalationConfig

/-- What a handoff tells the customer, and the channel on which it tells the agents. -/
structure HandoffConfig where
  messageTemplate : String
  notifyChannel : String
  deriving DecidableEq

namespace HandoffConfig

/-- Reads the configuration of a handoff. -/
def shape : Shape HandoffConfig := Shape.record fun e =>
  HandoffConfig.mk
    <$> Shape.optional ["messageTemplate", "message_template"] .text "" e
    <*> Shape.optional ["notifyChannel", "notify_channel"] .text "feishu" e

/-- The configuration as a record. -/
def toValue (c : HandoffConfig) : Value :=
  .object [
    ("message_template", .text c.messageTemplate),
    ("notify_channel", .text c.notifyChannel)]

/-- The configuration of a step that has none. -/
def default : HandoffConfig := ⟨"", "feishu"⟩

end HandoffConfig

/-! ## Nodes -/

/-- A node that does something. -/
inductive Action where
  | emotionDetector (c : EmotionConfig)
  | rag (c : RagConfig)
  | smartChat (c : SmartChatConfig)
  | escalationOffer (c : EscalationConfig)
  | handoff (c : HandoffConfig)
  deriving DecidableEq

/-- What a node is for. -/
inductive Role where
  | start
  | finish
  | action (a : Action)
  deriving DecidableEq

/-- The kinds of node. -/
inductive NodeKind where
  | start | finish | emotionDetector | rag | smartChat | escalationOffer | handoff
  deriving DecidableEq

/-- The name of a kind of node. -/
def NodeKind.name : NodeKind → String
  | .start => "start"
  | .finish => "end"
  | .emotionDetector => "emotionDetector"
  | .rag => "rag"
  | .smartChat => "smartChat"
  | .escalationOffer => "escalationOffer"
  | .handoff => "handoff"

/-- All kinds of node. -/
def NodeKind.all : List NodeKind :=
  [.start, .finish, .emotionDetector, .rag, .smartChat, .escalationOffer, .handoff]

/-- The kinds of node under their names. -/
def NodeKind.names : List (String × NodeKind) :=
  NodeKind.all.map fun k => (k.name, k)

/-- The kind of a node. -/
def Role.kind : Role → NodeKind
  | .start => .start
  | .finish => .finish
  | .action (.emotionDetector _) => .emotionDetector
  | .action (.rag _) => .rag
  | .action (.smartChat _) => .smartChat
  | .action (.escalationOffer _) => .escalationOffer
  | .action (.handoff _) => .handoff

structure Node where
  id : String
  name : Option String
  role : Role
  deriving DecidableEq

namespace Node

/-- The configuration under its name, if the node has one. -/
def config {α : Type} (shape : Shape α) (otherwise : α) (e : Entries) : Checked α :=
  Shape.optional ["config"] shape otherwise e

/-- What a node of a kind is for. -/
def roleOf (e : Entries) : NodeKind → Checked Role
  | .start => .valid .start
  | .finish => .valid .finish
  | .emotionDetector =>
    (config EmotionConfig.shape .default e).map fun c => .action (.emotionDetector c)
  | .rag => (config RagConfig.shape .default e).map fun c => .action (.rag c)
  | .smartChat => (config SmartChatConfig.shape .default e).map fun c => .action (.smartChat c)
  | .escalationOffer =>
    (config EscalationConfig.shape .default e).map fun c => .action (.escalationOffer c)
  | .handoff => (config HandoffConfig.shape .default e).map fun c => .action (.handoff c)

/-- Reads what nodes of a kind have in common, and what they are for. -/
def fields (kind : NodeKind) (e : Entries) : Checked Node :=
  Node.mk
    <$> Shape.required ["id"] .asText e
    <*> Shape.optional ["name"] (.orNull .text) none e
    <*> roleOf e kind

/-- Reads a node that has to be of a kind. -/
def shapeOf (kind : NodeKind) : Shape Node := Shape.record fun e =>
  (fun node _ => node)
    <$> fields kind e
    <*> Shape.required ["type"] (.choiceOf .literal [(kind.name, ())]) e

/-- Reads a node of the kind that it names. -/
def shape : Shape Node
  | .object e =>
    match Entries.value? "type" e with
    | none => .issue .tagMissing
    | some (.text name) =>
      match NodeKind.names.lookup name with
      | some kind => (fields kind e).within name
      | none => .issue .tagInvalid
    | some _ => .issue .tagInvalid
  | _ => .issue .attributesType

/-- The configuration of a step as an entry. -/
def configEntry : Role → Entries
  | .start => []
  | .finish => []
  | .action (.emotionDetector c) => [("config", c.toValue)]
  | .action (.rag c) => [("config", c.toValue)]
  | .action (.smartChat c) => [("config", c.toValue)]
  | .action (.escalationOffer c) => [("config", c.toValue)]
  | .action (.handoff c) => [("config", c.toValue)]

/-- A node as a record. -/
def toValue (n : Node) : Value :=
  .object ([
    ("id", .text n.id),
    ("name", .ofText? n.name),
    ("type", .text n.role.kind.name)] ++ configEntry n.role)

end Node

/-! ## Edges and definitions -/

structure Edge where
  id : String
  source : String
  target : String
  condition : Option String
  sourceHandle : Option String
  targetHandle : Option String
  deriving DecidableEq

namespace Edge

/-- A condition, which any value can be; a blank one is none. -/
def conditionShape : Shape (Option String)
  | .null => .valid none
  | v =>
    let s := Text.trim v.plainText
    .valid (if s.isEmpty then none else some s)

/-- Reads an edge. -/
def shape : Shape Edge := Shape.record fun e =>
  Edge.mk
    <$> Shape.required ["id"] .asText e
    <*> Shape.required ["source"] .asText e
    <*> Shape.required ["target"] .asText e
    <*> Shape.optional ["condition"] conditionShape none e
    <*> Shape.optional ["sourceHandle", "source_handle"] (.orNull .text) none e
    <*> Shape.optional ["targetHandle", "target_handle"] (.orNull .text) none e

/-- An edge as a record. -/
def toValue (e : Edge) : Value :=
  .object [
    ("id", .text e.id),
    ("source", .text e.source),
    ("target", .text e.target),
    ("condition", .ofText? e.condition),
    ("source_handle", .ofText? e.sourceHandle),
    ("target_handle", .ofText? e.targetHandle)]

end Edge

structure Definition where
  id : String
  name : String
  nodes : List Node
  edges : List Edge
  deriving DecidableEq

namespace Definition

/-- Reads a workflow. -/
def shape : Shape Definition := Shape.record fun e =>
  Definition.mk
    <$> Shape.required ["id"] .asText e
    <*> Shape.optional ["name"] .text "" e
    <*> Shape.optional ["nodes"] (.list Node.shape) [] e
    <*> Shape.optional ["edges"] (.list Edge.shape) [] e

/-- A workflow as a record. -/
def toValue (d : Definition) : Value :=
  .object [
    ("id", .text d.id),
    ("name", .text d.name),
    ("nodes", .list (d.nodes.map Node.toValue)),
    ("edges", .list (d.edges.map Edge.toValue))]

/-- The graph of a workflow, without what its nodes do. -/
def outline (d : Definition) : Value :=
  .object [
    ("id", .text d.id),
    ("name", .text d.name),
    ("nodes", .list (d.nodes.map fun n => .ofTexts [n.id, n.role.kind.name])),
    ("edges", .list (d.edges.map fun e =>
      .list [.text e.id, .text e.source, .text e.target, .ofText? e.condition]))]

end Definition

/-! ## Bindings -/

/-- Binds a scope, such as a module of the product, to a persona and its workflow. -/
structure Binding where
  id : String
  scope : String
  aiUserId : Int
  workflowId : Option String
  isActive : Bool
  workflow : Option Definition
  deriving DecidableEq

namespace Binding

/-- An identifier that any value but null can be. -/
def identifier : Shape String
  | .null => .issue .textType
  | v => .valid v.plainText

/-- Reads a binding. -/
def shape : Shape Binding := Shape.record fun e =>
  Binding.mk
    <$> Shape.required ["id"] identifier e
    <*> Shape.required ["scope"] .text e
    <*> Shape.required ["aiUserId", "ai_user_id"] .int e
    <*> Shape.optional ["workflowId", "workflow_id"] .asTextOrNull none e
    <*> Shape.optional ["isActive", "is_active"] .bool true e
    <*> Shape.optional ["workflow"] (.orNull Definition.shape) none e

/-- A binding as a record. -/
def toValue (b : Binding) : Value :=
  .object [
    ("id", .text b.id),
    ("scope", .text b.scope),
    ("ai_user_id", .int b.aiUserId),
    ("workflow_id", .ofText? b.workflowId),
    ("is_active", .bool b.isActive),
    ("workflow", valueOf? Definition.toValue b.workflow)]

/-- What a binding binds, with its workflow in outline. -/
def outline (b : Binding) : Value :=
  .object [
    ("id", .text b.id),
    ("scope", .text b.scope),
    ("ai_user_id", .int b.aiUserId),
    ("workflow_id", .ofText? b.workflowId),
    ("workflow", valueOf? Definition.outline b.workflow)]

end Binding

end Helpdesk.Workflow
