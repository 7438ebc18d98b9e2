import Helpdesk.Digest
import Helpdesk.Fault
import Helpdesk.Json.Reader
import Helpdesk.Json.Writer
import Helpdesk.Knowledge.Hit

/-!
# Helpdesk.Knowledge.Row — chunks as a collection keeps them.

A collection keeps flat metadata: texts and numbers, no nesting. The free-form metadata of a chunk
is therefore kept as JSON text in one entry, next to the entries that searches are restricted by.
Reading a row back is lenient about that text, because rows outlive the programs that write them;
only an integer with too many digits stops it.
-/
namespace Helpdesk.Knowledge

structure Row where
  key : String
  document : String
  metadata : Entries

/-- The fingerprint of what a chunk says and where it belongs. -/
def Chunk.fingerprint (c : Chunk) : String :=
  Digest.fingerprint (c.key ++ ":" ++ c.content)

/-- An entry for a text that is not empty. -/
def textEntry (name text : String) : Entries :=
  if text.isEmpty then [] else [(name, .text text)]

/-- The module that the metadata of a chunk names. -/
def Chunk.moduleText (c : Chunk) : String :=
  let module := (Entries.value? "module" c.metadata).getD .null
  if module.counts then module.plainText else ""

/-- Whether the metadata of a chunk names a module. -/
def Chunk.namesModule (c : Chunk) : Bool :=
  (Entries.value? "module" c.metadata).any Value.counts

/-- The flat metadata of a chunk. -/
def Chunk.flatMetadata (c : Chunk) (accessCount : Int) : Entries :=
  [("source_type", .text c.sourceType.name),
    ("source_id", .text c.sourceId),
    ("chunk_id", .int c.number),
    ("content_hash", .text c.fingerprint),
    ("access_count", .int accessCount),
    ("metadata_json", .text (Json.write (.object c.metadata)))] ++
    textEntry "title" (c.title.getD "") ++
    (if c.namesModule then [("module", .text c.moduleText)] else [])

/-- The row of a chunk. -/
def Row.ofChunk (c : Chunk) (accessCount : Int) : Row :=
  ⟨c.key, c.content, c.flatMetadata accessCount⟩

/-- The access count in the metadata of a row. -/
def accessCount (metadata : Entries) : Except Misfit Int :=
  ((Entries.value? "access_count" metadata).getD (.int 0)).toInteger

/-- The metadata that a text spells; empty when it is no JSON. -/
def readMetadataText (s : String) : Except Fault Value :=
  match Json.read s with
  | .ok v => .ok v
  | .error (.malformed _) => .ok (.object [])
  | .error .hugeInteger => .error .hugeInteger

/-- The free-form metadata in the metadata of a row. -/
def readMetadata (flat : Entries) : Except Fault Value :=
  match ((Entries.value? "metadata_json" flat).getD .null).orElse (.text "{}") with
  | .text s => readMetadataText s
  | v => .error (.misfit (.notJsonText v.kind))

/-- Metadata with the title of its row, unless it has one of its own. -/
def withTitle (title : Value) : Value → Except Misfit Value
  | .object entries =>
    .ok (.object (if Entries.has "title" entries then entries else Entries.put "title" title entries))
  | .list items =>
    if items.any (·.isText "title") then .ok (.list items) else .error (.notWritable .list)
  | .text s =>
    if Text.occursIn "title".toList s.toList then .ok (.text s) else .error (.notWritable .text)
  | v => .error (.notSearchable v.kind)

/-- A row as a hit. -/
def readHit (key : String) (document : Value) (flat : Entries) (score : Value) :
    Except Fault Hit := do
  let metadata ← readMetadata flat
  let title := (Entries.value? "title" flat).getD .null
  let metadata ← if title.counts then Fault.ofMisfit (withTitle title metadata) else pure metadata
  Fault.ofChecked "SearchHit" (Hit.shape (.object [
    ("id", .text key),
    ("content", document.orElse (.text "")),
    ("source_type", (Entries.value? "source_type" flat).getD (.text "")),
    ("source_id", (Entries.value? "source_id" flat).getD .null),
    ("chunk_id", (Entries.value? "chunk_id" flat).getD .null),
    ("score", score),
    ("metadata", metadata)]))

/-- A row as a hit of a score. -/
def Row.toHit (r : Row) (score : Float) : Except Fault Hit :=
  readHit r.key (.text r.document) r.metadata (.float score)

end Helpdesk.Knowledge
