import Helpdesk.Workflow.Mood

/-!
# Helpdesk.Workflow.Offer — whether to offer a human agent.

Retrieval is weak when it found at most one passage; templates see that as `weakRetrieval`, and it
is the reason for an offer when the model gives none. Without a usable decision nothing is offered.
-/
namespace Helpdesk.Workflow

open Conversation

variable {σ : Type}

/-- The reason for an offer after a weak retrieval. -/
def weakRetrievalReason : String := "召回不足/上下文不充分"

/-- Whether retrieval found too little. -/
def isWeak (s : State) : Bool :=
  (s.fields.context.getD []).length ≤ 1

/-- What is known when the model gave no decision. -/
def noOfferFields : Fields where
  proposeEscalation := some (.bool false)

/-- What is known from a decision, with the text of the offer when one is made. -/
def offerFields (d : Decision.Escalation) (weak : Bool) (text : Option String) : Fields where
  proposeEscalation := some (.bool d.propose)
  escalationReason := some (firstReason d.reasons (if weak then weakRetrievalReason else ""))
  handoffPriority := some (.text d.priority.name)
  response := text.map .text

/-- The step that decides whether to offer a human agent. -/
def offerEscalation (sv : Services σ) (c : EscalationConfig) (s : State) : Task σ Fields := do
  let weak := isWeak s
  let bag := Entries.put "weakRetrieval" (.bool weak) (← Task.ofMisfit (bag s))
  let prompts ← decisionPrompts c.systemPrompt c.userPrompt bag s false
  match ← decide sv c.llm .escalation prompts with
  | .ok d =>
    if d.propose then return offerFields d weak (some (← Task.fill c.offerMessageTemplate bag))
    else return offerFields d weak none
  | .error fault =>
    Task.note (stepNotice false "escalation_decision_failed" s fault.message)
    return noOfferFields

end Helpdesk.Workflow
