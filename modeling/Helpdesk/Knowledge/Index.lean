import Helpdesk.Knowledge.Collection
import Helpdesk.Knowledge.Ranking

/-!
# Helpdesk.Knowledge.Index — the knowledge base over a collection.

Chunks are written under their keys and keep the number of times they were used in answers. Searches
take a generous number of nearest rows and rank them again by distance, by how much their source
counts and by how popular they are. Neighbours and sources are read by restriction, in the order of
their numbers.
-/
namespace Helpdesk.Knowledge

/-! ## Scores -/

/-- The least number of rows that are ranked again. -/
def leastCandidates : Int := 30

/-- The most that popularity adds to a score. -/
def greatestBoost : Float := 0.05

/-- What popularity adds to a score; nothing when the count is too large for a float. -/
def popularity? (accessCount : Int) : Option Float := do
  let share ← Decimal.floatOfInt? accessCount
  let boost := share / 100.0
  return if greatestBoost < boost then greatestBoost else boost

/-- The score of a row at a distance: how near it is, weighted by its source, and its popularity. -/
def rerankScore? (distance : Float) (sourceType : String) (accessCount : Int) : Option Float := do
  let near := 1.0 - (if 1.0 < distance then 1.0 else distance)
  let relevance := if 0.0 < near then near else 0.0
  return relevance * sourceWeight sourceType + (← popularity? accessCount)

/-! ## Operations -/

/-- What a store says about an operation that failed. -/
def storeFault (operation : String) : Fault :=
  .store ("Chroma " ++ operation ++ " failed: request refused") []

/-- An outcome of an operation on the knowledge base. -/
abbrev Outcome (α : Type) := Except Fault α

/-- The access counts of rows under their keys. -/
def accessCounts (rows : List Row) : Except Misfit (List (String × Int)) :=
  rows.mapM fun row => do return (row.key, ← accessCount row.metadata)

/-- Writes chunks; chunks that are there already keep their access counts. -/
def upsert (chunks : List Chunk) : Program (Outcome Unit) :=
  if chunks.isEmpty then .done (.ok ())
  else
    .ask (.getKeys (chunks.map Chunk.key)) fun
      | none => .done (.error (storeFault "upsert"))
      | some rows =>
        match accessCounts rows with
        | .error _ => .done (.error (storeFault "upsert"))
        | .ok counts =>
          let row := fun (c : Chunk) => Row.ofChunk c ((counts.lookup c.key).getD 0)
          .request (.upsert (chunks.map row)) .ok (.error (storeFault "upsert"))

/-- A row at a distance as a hit. -/
def rankedHit (row : Row) (distance : Float) : Outcome Hit := do
  let sourceType := ((Entries.value? "source_type" row.metadata).getD (.text "")).plainText
  let count ← Fault.ofMisfit (accessCount row.metadata)
  match rerankScore? distance sourceType count with
  | some score => row.toHit score
  | none => throw .tooLarge

/-- The best hits for a query. -/
def search (query : String) (count : Int) (filter : Option Filter) :
    Program (Outcome (List Hit)) :=
  if count ≤ 0 then .done (.ok [])
  else
    .ask .count fun
      | none => .done (.error (storeFault "search"))
      | some total =>
        if total = 0 then .done (.ok [])
        else
          let wanted := min (max (3 * count) leastCandidates).toNat total
          .request (.query query wanted (Restriction.ofFilter? filter))
            (fun rows => do
              let hits ← rows.mapM fun (row, distance) => rankedHit row distance
              return (hits.mergeSort ranksBefore).take count.toNat)
            (.error (storeFault "search"))

/-- Hits in the order of their numbers. -/
def byNumber (hits : List Hit) : List Hit :=
  hits.mergeSort fun a b => decide (a.number.getD 0 ≤ b.number.getD 0)

/-- The hits of the rows that satisfy a restriction, in the order of their numbers. -/
def get (r : Restriction) (score : Float) : Program (Outcome (List Hit)) :=
  .request (.getWhere r)
    (fun rows => do return byNumber (← rows.mapM fun row => row.toHit score))
    (.error (storeFault "get"))

/-- The chunks of a source that are at most so far away from a number. -/
def neighbors (sourceType sourceId : String) (number window : Int) :
    Program (Outcome (List Hit)) :=
  get (.nearby sourceType sourceId number window) (sourceWeight sourceType)

/-- The chunks of a source. -/
def ofSource (sourceType sourceId : String) : Program (Outcome (List Hit)) :=
  get (.source sourceType sourceId) 0.0

/-- Removes a source. -/
def deleteSource (sourceType sourceId : String) : Program (Outcome Unit) :=
  .request (.delete (.source sourceType sourceId)) .ok (.error (storeFault "delete"))

/-- Whether the collection answers. -/
def health : Program (Outcome Bool) :=
  .request .heartbeat (fun _ => .ok true) (.error (storeFault "heartbeat"))

/-- The metadata of a row with one use more. -/
def countedUse (row : Row) : Except Misfit (String × Entries) := do
  let count ← accessCount row.metadata
  return (row.key, Entries.put "access_count" (.int (count + 1)) row.metadata)

/-- Counts one use of each of some chunks; chunks that are not there are passed over. -/
def countUse (keys : List String) : Program (Outcome Unit) :=
  let keys := Text.distinct keys
  let failed := .error (storeFault "access count update")
  if keys.isEmpty then .done (.ok ())
  else
    .ask (.getKeys keys) fun
      | none => .done failed
      | some [] => .done (.ok ())
      | some rows =>
        match rows.mapM countedUse with
        | .error _ => .done failed
        | .ok changes => .request (.update changes) .ok failed

end Helpdesk.Knowledge
