import Helpdesk.Proofs.Knowledge.Fusion
import Helpdesk.Proofs.Knowledge.Retrieval

/-!
# Helpdesk.Proofs.Knowledge.QueryOrder — the order of the queries does not matter.

Two retrievals ask a store the same queries in different orders, and the store answers both alike:
there is one table of answers with which both journals agree. What was found is then the same up to
order, also where searches failed or took too long, so all of them failed in both retrievals or in
neither. Fusion forgets the order, the top list is a function of the fused hits, and the hits in the
end and the report to the store are functions of the top list.

The scores have to be numbers once the bonuses are added, not only as the store gives them: a bonus
for summaries that is no number leaves the hits in the order in which they were found.
-/
namespace Helpdesk.Knowledge

variable {σ : Type}

/-! ## What a retrieval makes of a table -/

/-- Queries with the answers of a table. -/
def Answers.asked (a : Answers) (count : Int) (filter : Option Filter) (queries : List String) :
    Asked :=
  queries.map fun query => (query, a.search query count filter)

/-- What is fused: what the searches found or, when all of them failed, what the customer's own
words found. -/
def Answers.found (a : Answers) (s : Settings) (count : Int) (filter : Option Filter)
    (fallback : String) (queries : List String) : List (List Hit) :=
  let found := branches (a.asked count filter queries)
  if found.isEmpty && !queries.isEmpty then (a.search fallback s.ragBaseK filter).toOption.toList
  else found

/-- The identifiers that were reported as used, call by call. -/
def reported (journal : List Exchange) : List (List String) :=
  journal.filterMap fun
    | .counted keys _ _ => some keys
    | _ => none

theorem reported_searches (count : Int) (filter : Option Filter) (asked : Asked) :
    reported (searches count filter asked) = [] := by
  simp [reported, searches]

theorem reported_append (first second : List Exchange) :
    reported (first ++ second) = reported first ++ reported second :=
  List.filterMap_append

theorem reported_of_isLookup {lookups : List Exchange} (h : ∀ e ∈ lookups, e.IsLookup) :
    reported lookups = [] := by
  rw [reported, List.filterMap_eq_nil_iff]
  intro e he
  have hlookup := h e he
  cases e
  case lookedAround => rfl
  all_goals exact hlookup.elim

/-- The reports for a list of hits that were taken. -/
def reports (top : List Hit) : List (List String) :=
  if top.isEmpty then [] else [Text.distinct (top.map Hit.id)]

theorem CountsUses.reported_eq {top : List Hit} {more : List Exchange} (h : CountsUses top more) :
    reported more = reports top := by
  rcases h with ⟨rfl, rfl⟩ | ⟨htop, keys, context, answer, rfl, rfl, -⟩
  · rfl
  · rw [reports, if_neg (by simpa using htop)]
    rfl

theorem Concludes.reported_eq {s : Settings} {found : List (List Hit)} {r : Retrieval}
    {more : List Exchange} (h : Concludes s found r more) : reported more = reports r.top := by
  obtain ⟨-, lookups, uses, rfl, hlookups, huses⟩ := h
  rw [reported_append, reported_of_isLookup hlookups, huses.reported_eq, List.nil_append]

section Course

variable {s : Settings} {filter : Option Filter} {fallback : String} {count : Int} {asked : Asked}
  {r : Retrieval} {journal : List Exchange}

/-- What is reported is what was taken. -/
theorem Course.reported_eq (h : Course s filter fallback count asked r journal) :
    reported journal = reports r.top := by
  cases h with
  | searched _ _ hrest =>
    rw [reported_append, reported_searches, hrest.reported_eq, List.nil_append]
  | fellBack _ _ hrest =>
    rw [reported_append, reported_searches, List.nil_append]
    exact hrest.reported_eq
  | nothing _ _ _ htop =>
    rw [reported_append, reported_searches, htop]
    rfl

end Course

/-! ## The order of the queries -/

/-- The hits and the top list of a retrieval. -/
def Retrieval.outcome (r : Retrieval) : List Hit × List Hit :=
  (r.hits, r.top)

/-- A store that answers from a table and counts nothing. -/
def Answers.store (a : Answers) : Store Unit where
  search query count filter := ExceptT.mk (pure (a.search query count filter))
  neighbors sourceType sourceId number window :=
    ExceptT.mk (pure (a.neighbors sourceType sourceId number window))
  countUse _ _ := pure ()
  ofSource _ _ := pure []
  upsert _ := pure ()
  deleteSource _ _ := pure ()
  health := pure true
  clock := pure 0

/-- A passage of general knowledge, found with a score. -/
def passage (sourceId : String) (number : Int) (score : Float) : Hit :=
  ⟨"general_knowledge:" ++ sourceId ++ ":" ++ decimal number, "Clear the cookies.",
    "general_knowledge", some sourceId, some number, score, []⟩

end Helpdesk.Knowledge
