import Helpdesk.Http
import Helpdesk.Knowledge.Hit

/-!
# Helpdesk.Knowledge.Remote — the knowledge base of a remote service.

A remote service offers the same operations as the own index over a small protocol: a record goes to
a path, and a record comes back whose `data` is the answer. An operation is an *exchange*: what is
sent, and how the reply is read. A service that cannot be reached and a reply that reports an error
are faults of the store; the content of a good reply is checked item by item.
-/
namespace Helpdesk.Knowledge.Remote

/-- What is sent. -/
structure Call where
  path : String
  /-- Nothing for a call that only reads. -/
  body : Option Value

/-- An operation: settled at once, or a call and how its reply is read. -/
inductive Exchange (α : Type) where
  | settled (a : α)
  | call (c : Call) (read : Http.Reply → Except Fault α)

/-- The fault of a call that went wrong. -/
def callFault (path said : String) : Fault :=
  .store ("Vector service " ++ path ++ " failed: " ++ said) [("path", .text path)]

/-- The data of a reply; null when it has none. -/
def data (path : String) : Http.Reply → Except Fault Value
  | .unreachable said => throw (callFault path said)
  | .answered status body => do
    if Http.isSuccess status then return (← Http.record body).field "data"
    else throw (callFault path ("status " ++ decimal status))

/-- The items that data holds; data that does not count holds none. -/
def items (v : Value) : Except Misfit (List Value) :=
  if v.counts then v.elements else return []

/-- The hits that data holds. -/
def hits (v : Value) : Except Fault (List Hit) := do
  (← Fault.ofMisfit (items v)).mapM fun item => Fault.ofChecked "SearchHit" (Hit.shape item)

/-- A call whose reply is read as hits. -/
def asking (path : String) (body : Entries) : Exchange (List Hit) :=
  .call ⟨path, some (.object body)⟩ fun reply => do hits (← data path reply)

/-- A call whose data is not looked at. -/
def telling (path : String) (body : Entries) : Exchange Unit :=
  .call ⟨path, some (.object body)⟩ fun reply => do let _ ← data path reply

/-- A filter without the parts that are not set. -/
def filterEntries (f : Filter) : Entries :=
  (f.module.map fun m => ("module", Value.text m)).toList ++
    (f.sourceTypes.map fun ts => ("source_type", Value.ofTexts (ts.map SourceType.name))).toList

/-- Writes chunks. -/
def upsert (chunks : List Chunk) : Exchange Unit :=
  if chunks.isEmpty then .settled ()
  else telling "/upsert" [("docs", .list (chunks.map Chunk.toValue))]

/-- The best hits for a query. -/
def search (query : String) (count : Int) (filter : Option Filter) : Exchange (List Hit) :=
  asking "/search" ([("query", .text query), ("k", .int count)] ++
    (filter.map fun f => ("filters", Value.object (filterEntries f))).toList)

/-- The chunks of a source that are at most so far away from a number. -/
def neighbors (sourceType : String) (sourceId : Option String) (number window : Int) :
    Exchange (List Hit) :=
  asking "/getNeighbors" [("source_type", .text sourceType), ("source_id", .ofText? sourceId),
    ("chunk_id", .int number), ("window", .int window)]

/-- The chunks of a source. -/
def ofSource (sourceType sourceId : String) : Exchange (List Hit) :=
  asking "/getBySource" [("source_type", .text sourceType), ("source_id", .text sourceId)]

/-- Removes a source. -/
def deleteSource (sourceType sourceId : String) : Exchange Unit :=
  telling "/deleteBySource" [("source_type", .text sourceType), ("source_id", .text sourceId)]

/-- Counts one use of each of some chunks, and says what they were used for. -/
def countUse (keys : List String) (context : Entries) : Exchange Unit :=
  let keys := Text.distinct keys
  if keys.isEmpty then .settled ()
  else telling "/updateAccessCount" [("chunkIds", .ofTexts keys), ("context", .object context)]

/-- Whether the service is up. -/
def health : Exchange Bool :=
  .call ⟨"/health", none⟩ fun
    | .unreachable said => throw (.unreachable said)
    | .answered status _ => return status == 200

end Helpdesk.Knowledge.Remote
