import Helpdesk.Office
import Helpdesk.Triage

/-!
# Helpdesk.Workflow.Mood — what the customer feels, and whether a human must take over.

A customer who asks for a human or uses strong language is handed over without asking a model. When
the model gives no usable decision the customer counts as neutral, and what was known about a
handoff stays as it was.
-/
namespace Helpdesk.Workflow

open Conversation

variable {σ : Type}

/-- A text of the bag; empty when it is not there. -/
def bagText (name : String) (bag : Entries) : String :=
  (((Entries.value? name bag).getD .null).text?).getD ""

/-- The customer's last words in the bag. -/
def lastWords (bag : Entries) : String :=
  bagText "lastCustomerMessage" bag

/-- The notice of a step about the ticket of a run. -/
def stepNotice (isError : Bool) (event : String) (s : State) (said : String) : Notice :=
  ⟨isError, event, [("ticket_id", s.ticketId), ("error", .text said)]⟩

/-- The prompts of a step that decides: its templates filled in, with the images of the run. -/
def decisionPrompts (systemPrompt userPrompt : String) (bag : Entries) (s : State)
    (ofTicket : Bool) : Task σ (List Model.Prompt) := do
  let instructions ← Task.fill systemPrompt bag
  let prompt ← Task.fill userPrompt bag
  return Model.Prompt.pair instructions (← Task.ofMisfit (promptParts prompt s ofTicket))

/-- Has the model of a step decide. -/
def decide {α : Type} (sv : Services σ) (llm : Option ModelChoice) (form : Model.Form α)
    (prompts : List Model.Prompt) : Task σ (Except Fault α) :=
  Task.ofWork (Model.decide sv.models (.deciding sv.settings llm) form prompts)

/-- The first of some reasons. -/
def firstReason (reasons : List String) (otherwise : String) : Value :=
  .text (reasons.headD otherwise)

/-- What is known of a customer who is handed over at once. -/
def urgentFields (lastWords reason : String) : Fields where
  userQuery := some (.text lastWords)
  handoffRequired := some (.bool true)
  handoffReason := some (.text reason)
  handoffPriority := some (.text Priority.p2.name)
  sentiment := some (.text Sentiment.requestAgent.name)

/-- What is known when the model gave no decision. -/
def neutralFields (lastWords : String) : Fields where
  userQuery := some (.text lastWords)
  sentiment := some (.text Sentiment.neutral.name)

/-- What is known from a decision. -/
def moodFields (lastWords : String) (d : Decision.Mood) : Fields where
  userQuery := some (.text lastWords)
  handoffRequired := some (.bool d.handoff)
  handoffReason := some (firstReason d.reasons "")
  handoffPriority := some (.text d.priority.name)
  sentiment := some (.text d.sentiment.name)

/-- The step that finds out what the customer feels. -/
def detectMood (sv : Services σ) (c : EmotionConfig) (s : State) : Task σ Fields := do
  let bag ← Task.ofMisfit (bag s)
  let lastWords := lastWords bag
  match Triage.handoffReason? lastWords with
  | some reason => return urgentFields lastWords reason
  | none =>
    let prompts ← decisionPrompts c.systemPrompt c.userPrompt bag s false
    match ← decide sv c.llm .mood prompts with
    | .ok d => return moodFields lastWords d
    | .error fault =>
      Task.note (stepNotice false "emotion_detection_failed" s fault.message)
      return neutralFields lastWords

end Helpdesk.Workflow
