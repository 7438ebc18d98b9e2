import Helpdesk.Knowledge.Chunk

/-!
# Helpdesk.Knowledge.Hit — what a search finds.

A hit is a chunk as a store gives it back, with a score. Stores are not trusted to know the source
types, and the source and the number of a chunk may be missing.
-/
namespace Helpdesk.Knowledge

structure Hit where
  id : String
  content : String
  sourceType : String
  sourceId : Option String
  number : Option Int
  score : Float
  metadata : Entries

namespace Hit

/-- An identifier, which any value but null can be. -/
def identifier : Shape String
  | .null => .issue .textType
  | v => .valid v.plainText

/-- Metadata, where anything but an object counts as none. -/
def looseMetadata : Shape Entries := fun v => .valid (v.entries?.getD [])

/-- Reads a hit. -/
def shape : Shape Hit := Shape.record fun e =>
  Hit.mk
    <$> Shape.required ["id"] identifier e
    <*> Shape.required ["content"] .text e
    <*> Shape.required ["source_type"] .text e
    <*> Shape.optional ["source_id"] .asTextOrNull none e
    <*> Shape.optional ["chunk_id"] (.orNull .int) none e
    <*> Shape.optional ["score"] .float 0.0 e
    <*> Shape.optional ["metadata"] looseMetadata [] e

/-- A hit as a record. -/
def toValue (h : Hit) : Value :=
  .object [
    ("id", .text h.id),
    ("content", .text h.content),
    ("source_type", .text h.sourceType),
    ("source_id", .ofText? h.sourceId),
    ("chunk_id", .ofInt? h.number),
    ("score", .float h.score),
    ("metadata", .object h.metadata)]

/-- The source of a hit. -/
def sourceKey (h : Hit) : String :=
  h.sourceType ++ ":" ++ h.sourceId.getD ""

/-- Whether the metadata says that this is a summary. -/
def isMarkedSummary (h : Hit) : Bool :=
  match Entries.value? "is_summary" h.metadata with
  | some (.bool b) => b
  | _ => false

/-- Whether a hit is the summary of its source. -/
def isSummary (h : Hit) : Bool :=
  h.number == some 0 || h.isMarkedSummary

/-- Whether a hit comes from a conversation. -/
def isDialog (h : Hit) : Bool :=
  (SourceType.names.lookup h.sourceType).any SourceType.isDialog

/-- The chunk of a conversation as a hit of a given score. -/
def ofChunk (c : Chunk) (score : Float) : Hit :=
  ⟨c.key, c.content, c.sourceType.name, some c.sourceId, some (c.number : Int), score, c.metadata⟩

end Hit

end Helpdesk.Knowledge
