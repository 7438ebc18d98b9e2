import Helpdesk.Knowledge.Query
import Helpdesk.Workflow.Mood

/-!
# Helpdesk.Workflow.Lookup — the knowledge for the customer's last message.

A step may first find out whether there is anything to search for; in doubt it searches. A model
writes the queries. Without usable queries the customer's own words are searched, and without any
words the title and the module of the ticket.
-/
namespace Helpdesk.Workflow

open Conversation

variable {σ : Type}

/-- Whether there is anything to search for. -/
def shouldSearch (sv : Services σ) (c : RagConfig) (bag : Entries) (s : State) : Task σ Bool := do
  if !c.enableIntentAnalysis then return true
  if Triage.isSmallTalk (lastWords bag) then return false
  let intent := c.intentAnalysis.getD ⟨"", "", none⟩
  let prompts ← decisionPrompts intent.systemPrompt intent.userPrompt bag s false
  match ← decide sv intent.llm .searchNeed prompts with
  | .ok d => return d.isNeeded
  | .error fault =>
    Task.note (stepNotice false "search_intent_failed" s fault.message)
    return true

/-- The most queries that are searched. -/
def queryLimit : Nat := 3

/-- The queries of a decision, cleaned up and each of them once. -/
def usableQueries (d : Decision.Queries) : List String :=
  ((Text.distinct (d.queries.map Knowledge.sanitize)).filter (!·.isEmpty)).take queryLimit

/-- The query for a ticket whose customer said nothing that can be searched. -/
def ticketQuery (bag : Entries) : String :=
  let found := fun name => ((Entries.value? name bag).getD .null).plainText
  Text.trim (found "ticketTitle" ++ " " ++ found "ticketModule")

/-- The queries that a model wrote; the customer's own words when it wrote none. -/
def writtenQueries (sv : Services σ) (c : RagConfig) (bag : Entries) (s : State) :
    Task σ (List String) := do
  let prompts ← decisionPrompts c.querySystemPrompt c.queryUserPrompt bag s true
  match ← decide sv c.queryLlm .queries prompts with
  | .ok d => return usableQueries d
  | .error fault =>
    Task.note (stepNotice false "query_generation_failed" s fault.message)
    return [lastWords bag].filter (!·.isEmpty)

/-- The queries that are searched. -/
def queriesFor (sv : Services σ) (c : RagConfig) (bag : Entries) (s : State) :
    Task σ (List String) := do
  let queries ← writtenQueries sv c bag s
  return if queries.isEmpty then [ticketQuery bag] else queries

/-- The chunks that a ticket may be answered from: those of its module, when it has one. -/
def ticketFilter (module : Value) : Except Fault (Option Knowledge.Filter) :=
  if module.counts then
    (Fault.ofChecked "KBFilter" (Knowledge.Filter.shape (.object [("module", module)]))).map some
  else .ok none

/-- What is reported with the use of chunks. -/
def useContext (s : State) (lastWords : String) (queries : List String) : Entries :=
  [("userQuery", .text lastWords), ("aiGenerateQueries", .ofTexts queries),
    ("ticketId", s.ticketId), ("ticketModule", (Entries.value? "module" s.ticket).getD .null)]

/-- What is known when nothing was searched. -/
def unsearchedFields : Fields where
  context := some []
  searchQueries := some (.list [])

/-- What is known from a search. -/
def searchedFields (r : Knowledge.Retrieval) (queries : List String) : Fields where
  context := some r.hits
  searchQueries := some (.ofTexts queries)

/-- The step that looks for knowledge. -/
def lookUpKnowledge (sv : Services σ) (c : RagConfig) (s : State) : Task σ Fields := do
  let bag ← Task.ofMisfit (bag s)
  if !(← shouldSearch sv c bag s) then return unsearchedFields
  let queries ← queriesFor sv c bag s
  let filter ← Task.ofExcept (ticketFilter ((Entries.value? "module" s.ticket).getD .null))
  let found ← Task.ofAttempt (Knowledge.retrieve sv.store sv.settings queries filter (lastWords bag)
    (useContext s (lastWords bag) queries))
  return searchedFields found queries

end Helpdesk.Workflow
