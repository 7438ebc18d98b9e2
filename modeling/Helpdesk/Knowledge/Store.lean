import Helpdesk.Knowledge.Index
import Helpdesk.Knowledge.Remote
import Helpdesk.World

/-!
# Helpdesk.Knowledge.Store — stores of knowledge, as they are asked.
-/
namespace Helpdesk.Knowledge

/-- A store of knowledge, and the clock that its use is measured by. -/
structure Store (σ : Type) where
  /-- The best hits for a query. -/
  search : String → Int → Option Filter → Ask σ (List Hit)
  /-- The chunks of a source that are at most so far away from a number. -/
  neighbors : String → Option String → Int → Int → Ask σ (List Hit)
  /-- Counts a use of chunks, and says what they were used for. -/
  countUse : List String → Entries → Ask σ Unit
  /-- The chunks of a source. -/
  ofSource : String → String → Ask σ (List Hit)
  /-- Writes chunks. -/
  upsert : List Chunk → Ask σ Unit
  /-- Removes a source. -/
  deleteSource : String → String → Ask σ Unit
  /-- Whether the store says that it works. -/
  health : Ask σ Bool
  /-- Milliseconds on a clock that never goes back. -/
  clock : StateM σ Int

namespace Store

/-- A program as a question to a collection. -/
def askCollection {α : Type} (distance : Distance) (fails : RequestKind → Bool)
    (p : Program (Except Fault α)) : Ask Collection α :=
  ExceptT.mk fun c => p.run distance fails c

/-- The store over a collection, where `fails` says which requests fail. -/
def ofCollection (distance : Distance) (fails : RequestKind → Bool) : Store Collection where
  search query count filter := askCollection distance fails (Knowledge.search query count filter)
  neighbors sourceType sourceId number window :=
    askCollection distance fails
      (Knowledge.neighbors sourceType (Value.ofText? sourceId).plainText number window)
  countUse keys _ := askCollection distance fails (Knowledge.countUse keys)
  ofSource sourceType sourceId :=
    askCollection distance fails (Knowledge.ofSource sourceType sourceId)
  upsert chunks := askCollection distance fails (Knowledge.upsert chunks)
  deleteSource sourceType sourceId :=
    askCollection distance fails (Knowledge.deleteSource sourceType sourceId)
  health := askCollection distance fails Knowledge.health
  clock := pure 0

/-- An exchange as a question, where `reach` carries a call to the service. -/
def askService {σ α : Type} (reach : Remote.Call → StateM σ Http.Reply) :
    Remote.Exchange α → Ask σ α
  | .settled a => pure a
  | .call c read => ExceptT.mk do return read (← reach c)

/-- The store behind a service, where `reach` carries a call to the service. -/
def ofService {σ : Type} (reach : Remote.Call → StateM σ Http.Reply) (clock : StateM σ Int) :
    Store σ where
  search query count filter := askService reach (Remote.search query count filter)
  neighbors sourceType sourceId number window :=
    askService reach (Remote.neighbors sourceType sourceId number window)
  countUse keys context := askService reach (Remote.countUse keys context)
  ofSource sourceType sourceId := askService reach (Remote.ofSource sourceType sourceId)
  upsert chunks := askService reach (Remote.upsert chunks)
  deleteSource sourceType sourceId := askService reach (Remote.deleteSource sourceType sourceId)
  health := askService reach Remote.health
  clock := clock

end Store

/-- Whether a store works; one that cannot be asked does not. -/
def isHealthy {σ : Type} (store : Store σ) : Work σ Bool := do
  match ← Work.ask store.health with
  | .ok healthy => return healthy
  | .error _ =>
    Work.note (.warning "vector_store_unhealthy" [])
    return false

end Helpdesk.Knowledge
