import Helpdesk.Validation

/-!
# Helpdesk.Knowledge.Chunk — units of indexed knowledge.

Knowledge comes from sources: a favourited conversation, a resolved ticket or a document. A source
is indexed as numbered chunks; number 0 is the summary of a conversation. A chunk is stored under a
key made of its source and its number, so indexing a source again writes the same rows.
-/
namespace Helpdesk.Knowledge

/-- Where a chunk comes from. -/
inductive SourceType where
  | favoritedConversation
  | historicalTicket
  | generalKnowledge
  deriving DecidableEq

namespace SourceType

/-- The stored name of a source type. -/
def name : SourceType → String
  | favoritedConversation => "favorited_conversation"
  | historicalTicket => "historical_ticket"
  | generalKnowledge => "general_knowledge"

/-- The source types under their stored names. -/
def names : List (String × SourceType) :=
  [favoritedConversation, historicalTicket, generalKnowledge].map fun s => (s.name, s)

/-- Whether chunks of a source are consecutive slices of one conversation. -/
def isDialog : SourceType → Bool
  | favoritedConversation => true
  | historicalTicket => true
  | generalKnowledge => false

/-- How much a hit of a source counts. -/
def weight : SourceType → Float
  | favoritedConversation => 1.0
  | historicalTicket => 0.8
  | generalKnowledge => 0.6

end SourceType

/-- The weight of a source type that is not known. -/
def unknownWeight : Float := 0.5

/-- The weight of a source type under its stored name. -/
def sourceWeight (sourceType : String) : Float :=
  ((SourceType.names.lookup sourceType).map SourceType.weight).getD unknownWeight

/-- The key of a chunk. -/
def keyOf (sourceType sourceId : String) (number : Int) : String :=
  sourceType ++ ":" ++ sourceId ++ ":" ++ decimal number

structure Chunk where
  sourceType : SourceType
  sourceId : String
  number : Nat
  title : Option String
  content : String
  metadata : Entries

namespace Chunk

/-- Reads a chunk. -/
def shape : Shape Chunk := Shape.record fun e =>
  (fun sourceType sourceId (number : Int) title content metadata =>
      (⟨sourceType, sourceId, number.toNat, title, content, metadata⟩ : Chunk))
    <$> Shape.required ["source_type"] (.choiceOf .choice SourceType.names) e
    <*> Shape.required ["source_id"] .text e
    <*> Shape.required ["chunk_id"] (.intAtLeast 0) e
    <*> Shape.optional ["title"] (.orNull .text) none e
    <*> Shape.required ["content"] .text e
    <*> Shape.optional ["metadata"] .object [] e

/-- The key that a chunk is stored under. -/
def key (c : Chunk) : String :=
  keyOf c.sourceType.name c.sourceId c.number

/-- A chunk as a record. -/
def toValue (c : Chunk) : Value :=
  .object [
    ("source_type", .text c.sourceType.name),
    ("source_id", .text c.sourceId),
    ("chunk_id", .int c.number),
    ("title", .ofText? c.title),
    ("content", .text c.content),
    ("metadata", .object c.metadata)]

end Chunk

/-- Which chunks a search looks at. -/
structure Filter where
  module : Option String
  sourceTypes : Option (List SourceType)
  deriving DecidableEq

namespace Filter

/-- Reads a filter. -/
def shape : Shape Filter := Shape.record fun e =>
  Filter.mk
    <$> Shape.optional ["module"] (.orNull .text) none e
    <*> Shape.optional ["source_type"]
      (.orNull (.list (.choiceOf .choice SourceType.names))) none e

/-- A filter as a record. -/
def toValue (f : Filter) : Value :=
  .object [
    ("module", .ofText? f.module),
    ("source_type", (f.sourceTypes.map fun ts => Value.ofTexts (ts.map SourceType.name)).getD .null)]

end Filter

end Helpdesk.Knowledge
