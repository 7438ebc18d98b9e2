import Helpdesk.Ticket

/-!
# Helpdesk.Decision — what models are asked to decide.

A model answers a question with a record of a fixed form. The reasons that it gives are for the log
and for the handoff note; at most ten of them are taken.
-/
namespace Helpdesk.Decision

/-- The most reasons that a decision may give. -/
def reasonLimit : Nat := 10

/-- Reads the reasons of a decision. -/
def reasonsField (e : Entries) : Checked (List String) :=
  Shape.optional ["reasons"] (.boundedList .text 0 (some reasonLimit)) [] e

/-- Reads the priority of a decision. -/
def priorityField (e : Entries) : Checked Priority :=
  Shape.optional ["priority"] (.choiceOf .choice Priority.names) .p2 e

/-- What the customer feels, and whether a human should take over. -/
structure Mood where
  sentiment : Sentiment
  handoff : Bool
  reasons : List String
  priority : Priority
  deriving DecidableEq

namespace Mood

/-- Reads a decision on the mood. -/
def shape : Shape Mood := Shape.record fun e =>
  Mood.mk
    <$> Shape.required ["sentiment"] (.choiceOf .choice Sentiment.names) e
    <*> Shape.required ["handoff"] .bool e
    <*> reasonsField e
    <*> priorityField e

/-- A decision on the mood as a record. -/
def toValue (d : Mood) : Value :=
  .object [
    ("sentiment", .text d.sentiment.name),
    ("handoff", .bool d.handoff),
    ("reasons", .ofTexts d.reasons),
    ("priority", .text d.priority.name)]

end Mood

/-- Whether the knowledge base has to be searched. -/
structure SearchNeed where
  isNeeded : Bool
  reasons : List String
  deriving DecidableEq

namespace SearchNeed

/-- The two answers under their names. -/
def names : List (String × Bool) := [("NEED_SEARCH", true), ("NO_SEARCH", false)]

/-- Reads a decision on searching. -/
def shape : Shape SearchNeed := Shape.record fun e =>
  SearchNeed.mk <$> Shape.required ["action"] (.choiceOf .literal names) e <*> reasonsField e

/-- A decision on searching as a record. -/
def toValue (d : SearchNeed) : Value :=
  .object [
    ("action", .text (if d.isNeeded then "NEED_SEARCH" else "NO_SEARCH")),
    ("reasons", .ofTexts d.reasons)]

end SearchNeed

/-- Two or three different queries for the knowledge base. -/
structure Queries where
  queries : List String
  deriving DecidableEq

namespace Queries

/-- Reads queries. -/
def shape : Shape Queries := Shape.record fun e =>
  Queries.mk <$> Shape.required ["queries"] (.boundedList (.boundedText 2 80) 2 (some 3)) e

/-- Queries as a record. -/
def toValue (d : Queries) : Value :=
  .object [("queries", .ofTexts d.queries)]

end Queries

/-- Whether to offer a human agent. -/
structure Escalation where
  propose : Bool
  reasons : List String
  priority : Priority
  deriving DecidableEq

namespace Escalation

/-- The two answers under their names. -/
def names : List (String × Bool) := [("PROPOSE_ESCALATION", true), ("CONTINUE", false)]

/-- Reads a decision on escalation. -/
def shape : Shape Escalation := Shape.record fun e =>
  Escalation.mk
    <$> Shape.required ["decision"] (.choiceOf .literal names) e
    <*> reasonsField e
    <*> priorityField e

/-- A decision on escalation as a record. -/
def toValue (d : Escalation) : Value :=
  .object [
    ("decision", .text (if d.propose then "PROPOSE_ESCALATION" else "CONTINUE")),
    ("reasons", .ofTexts d.reasons),
    ("priority", .text d.priority.name)]

end Escalation

/-- What a resolved conversation was about. -/
structure Summary where
  problem : String
  steps : List String
  queries : List String
  tags : List String
  deriving DecidableEq

namespace Summary

/-- Reads a summary. -/
def shape : Shape Summary := Shape.record fun e =>
  Summary.mk
    <$> Shape.optional ["problem_summary"] .text "" e
    <*> Shape.optional ["solution_steps"] (.list .text) [] e
    <*> Shape.optional ["generated_queries"] (.list .text) [] e
    <*> Shape.optional ["tags"] (.list .text) [] e

/-- A summary as entries. -/
def toEntries (d : Summary) : Entries :=
  [("problem_summary", .text d.problem),
    ("solution_steps", .ofTexts d.steps),
    ("generated_queries", .ofTexts d.queries),
    ("tags", .ofTexts d.tags)]

/-- A summary as a record. -/
def toValue (d : Summary) : Value :=
  .object d.toEntries

/-- The summary of a conversation that nobody summed up. -/
def empty : Summary := ⟨"", [], [], []⟩

end Summary

end Helpdesk.Decision
