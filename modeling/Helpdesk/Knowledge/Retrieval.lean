import Helpdesk.Keyed
import Helpdesk.Knowledge.Ranking
import Helpdesk.Knowledge.Store
import Helpdesk.Settings

/-!
# Helpdesk.Knowledge.Retrieval — from queries to the passages that an answer may use.

Every query is searched. A search that takes too long finds nothing, a search that fails is left
out, and when all of them fail the customer's own words are searched instead. The hits are fused
into one ranked list, and a few of them are taken with at most so many of each source. Hits in
conversations are then read together with what stands around them, so that a model sees a problem
with its solution. Uses are counted for the hits that were taken, not for what stands around them.
-/
namespace Helpdesk.Knowledge

variable {σ : Type}

/-! ## Searching -/

/-- What is noted about a search that failed. -/
def searchFailure (query : String) (fault : Fault) : Notice :=
  .error "kb_search_failed" [("query", .text query), ("error", .text fault.message)]

/-- The hits for one query; none when the search takes too long. -/
def searchBranch (store : Store σ) (query : String) (count : Int) (filter : Option Filter) :
    Work σ (Except Fault (List Hit)) := do
  match ← Work.ask (store.search query count filter) with
  | .ok hits => return .ok hits
  | .error .timedOut =>
    Work.note (.warning "kb_search_timeout" [("query", .text query)])
    return .ok []
  | .error fault =>
    return .error (.search query
      ("Search failed for " ++ Text.quoted query ++ ": " ++ fault.message))

/-- The hits of the searches that did not fail; the others are noted. -/
def succeeded : List (String × Except Fault (List Hit)) → Work σ (List (List Hit))
  | [] => return []
  | (_, .ok hits) :: rest => do return hits :: (← succeeded rest)
  | (query, .error fault) :: rest => do
    Work.note (searchFailure query fault)
    succeeded rest

/-- What comes of the search for each query. -/
def searchAll (store : Store σ) (count : Int) (filter : Option Filter) (queries : List String) :
    Work σ (List (String × Except Fault (List Hit))) :=
  queries.mapM fun query => do return (query, ← searchBranch store query count filter)

/-- The hits for each query whose search does not fail. -/
def fanOut (store : Store σ) (s : Settings) (queries : List String) (filter : Option Filter) :
    Attempt σ (List (List Hit)) := do
  match hitsPerQuery? queries.length s.ragBaseK with
  | none => throw .tooLarge
  | some count => Attempt.sure do succeeded (← searchAll store count filter queries)

/-! ## Reading around hits -/

/-- Hits with others of the same source, in the order of the first of each source. -/
def grouped (hits : List Hit) : List (List Hit) :=
  Keyed.entries (hits.foldl (fun groups hit =>
    Keyed.put hit.sourceKey ((Keyed.get? hit.sourceKey groups).getD [] ++ [hit]) groups) [])

/-- How many neighbours a summary brings along. -/
def summaryNeighbors : Nat := 2

/-- How far away from a summary its neighbours may be. -/
def summaryWindow : Int := 2

/-- The chunks around a number in the source of a hit; none when they cannot be read. -/
def lookAround (store : Store σ) (hit : Hit) (number window : Int) : Work σ (List Hit) := do
  match ← Work.ask (store.neighbors hit.sourceType hit.sourceId number window) with
  | .ok hits => return hits.filter fun n => n.sourceType = hit.sourceType && n.sourceId = hit.sourceId
  | .error fault =>
    Work.note (.warning "kb_neighbors_failed" [("source", .text hit.sourceKey),
      ("error", .text fault.message)])
    return []

/-- Whether a neighbour of a summary comes before another or beside it: by score, then by number. -/
def leadsBefore (a b : Hit) : Bool :=
  !(decide (a.score < b.score) ||
    (a.score == b.score && decide (b.number.getD 0 < a.number.getD 0)))

/-- The neighbours that a summary brings along. -/
def summaryCompany (neighbors : List Hit) : List Hit :=
  ((neighbors.filter fun n => n.number != some 0).mergeSort leadsBefore).take summaryNeighbors

/-- The last hit with a number. -/
def lastNumbered (number : Int) (hits : List Hit) : List Hit :=
  (hits.reverse.find? fun n => n.number = some number).toList

/-- The hits of one source together with what stands around them. -/
def expandGroup (store : Store σ) (group : List Hit) : Work σ (List Hit) := do
  match group with
  | [] => return []
  | first :: _ =>
    if !first.isDialog || first.sourceId.isNone then return group
    match group.find? fun h => h.number = some 0 with
    | some summary => return summary :: summaryCompany (← lookAround store summary 0 summaryWindow)
    | none =>
      match first.number with
      | none => return [first]
      | some number =>
        let around ← lookAround store first number 1
        return lastNumbered (number - 1) around ++ [first] ++ lastNumbered (number + 1) around

/-- Hits without later ones of the same identifier. -/
def distinctHits (hits : List Hit) : List Hit :=
  hits.foldl (fun seen hit => if seen.any fun h => h.id = hit.id then seen else seen ++ [hit]) []

/-- Hits together with what stands around those in conversations, cut to a limit. -/
def expand (store : Store σ) (limit : Int) (hits : List Hit) : Work σ (List Hit) := do
  let groups ← (grouped hits).mapM (expandGroup store)
  return Text.upTo (distinctHits groups.flatten) limit

/-! ## Retrieval -/

structure Retrieval where
  /-- What an answer may use. -/
  hits : List Hit
  queries : List String
  /-- The hits that were taken. -/
  top : List Hit
  usedFallback : Bool

/-- Whether more than one passage was found. -/
def Retrieval.isGood (r : Retrieval) : Bool :=
  1 < r.hits.length

/-- A retrieval as a record. -/
def Retrieval.toValue (r : Retrieval) : Value :=
  .object [
    ("hits", .list (r.hits.map Hit.toValue)),
    ("top", .ofTexts (r.top.map Hit.id)),
    ("queries", .ofTexts r.queries),
    ("used_fallback", .bool r.usedFallback),
    ("good", .bool r.isGood)]

/-- The hits for the customer's own words, when they can be searched. -/
def fallbackHits (store : Store σ) (s : Settings) (query : String) (filter : Option Filter) :
    Work σ (Option (List Hit)) := do
  match ← Work.ask (store.search query s.ragBaseK filter) with
  | .ok hits => return some hits
  | .error fault =>
    Work.note (.error "kb_fallback_search_failed" [("error", .text fault.text)])
    return none

/-- Counts a use of the hits that were taken. -/
def countUses (store : Store σ) (top : List Hit) (context : Entries) (started : Int) :
    Work σ Unit := do
  let ended ← Work.observe store.clock
  let keys := Text.distinct (top.map Hit.id)
  if keys.isEmpty then return ()
  let context := Entries.put "ragDuration" (.int (ended - started)) context
  match ← Work.ask (store.countUse keys context) with
  | .ok _ => return ()
  | .error fault =>
    Work.note (.warning "kb_access_count_failed" [("error", .text fault.message)])

/-- Makes one list of what the queries found. -/
def conclude (store : Store σ) (s : Settings) (queries : List String) (context : Entries)
    (started : Int) (branches : List (List Hit)) (usedFallback : Bool) : Work σ Retrieval := do
  let top := diversify (fuse branches s.ragSummaryBonus) s.ragTopN s.ragMaxPerSource
  let hits ← expand store s.ragMaxResults top
  countUses store top context started
  return ⟨hits, queries, top, usedFallback⟩

/-- Searches all queries; `fallback` is searched when every search fails. -/
def retrieve (store : Store σ) (s : Settings) (queries : List String) (filter : Option Filter)
    (fallback : String) (context : Entries) : Attempt σ Retrieval := do
  let started ← Attempt.sure (Work.observe store.clock)
  let branches ← fanOut store s queries filter
  if branches.isEmpty && !queries.isEmpty then
    Attempt.note (.error "kb_all_searches_failed" [("queries", .ofTexts queries)])
    match ← Attempt.sure (fallbackHits store s fallback filter) with
    | some hits => Attempt.sure (conclude store s queries context started [hits] true)
    | none => return ⟨[], queries, [], true⟩
  else Attempt.sure (conclude store s queries context started branches false)

end Helpdesk.Knowledge
