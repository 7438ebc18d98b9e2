import Helpdesk.Workflow.Mood

/-!
# Helpdesk.Workflow.Reply — the reply that a model writes.

Whatever goes wrong while a reply is written ends in an empty reply.
-/
namespace Helpdesk.Workflow

open Conversation

variable {σ : Type}

/-- What the model is told: the prompt, with images when the step may show them. -/
def replyContent (c : SmartChatConfig) (prompt : String) (s : State) : Except Misfit Value :=
  if c.enableVision then
    promptParts prompt s (c.vision.any (·.includeTicketDescriptionImages))
  else .ok (.text prompt)

/-- Has the model of a step write a reply. -/
def draft (sv : Services σ) (c : SmartChatConfig) (s : State) : Task σ String := do
  let bag ← Task.ofMisfit (bag s)
  let instructions ← Task.fill c.systemPrompt bag
  let prompt ← Task.fill c.userPrompt bag
  let content ← Task.ofMisfit (replyContent c prompt s)
  Task.ofAttempt (Model.write sv.models (.writing sv.settings c.llm)
    (Model.Prompt.pair instructions content))

/-- What is known after a reply was written. -/
def replyFields (text : String) : Fields where
  response := some (.text text)

/-- The step that writes the reply. -/
def reply (sv : Services σ) (c : SmartChatConfig) (s : State) : Duty σ Fields := do
  match ← Duty.outcome (draft sv c s) with
  | .ok text => return replyFields text
  | .error fault =>
    Duty.note (stepNotice true "smart_chat_failed" s fault.text)
    return replyFields ""

end Helpdesk.Workflow
