import Helpdesk.Proofs.Conversation.Bag
import Helpdesk.Proofs.Knowledge.Expansion
import Helpdesk.Proofs.Knowledge.Query
import Helpdesk.Proofs.Text.Blank
import Helpdesk.Proofs.Workflow.Journal

/-!
# Helpdesk.Proofs.Workflow.Searching — what the step that looks for knowledge asks of the store.

The queries come from a model, from the customer's last words or from the ticket, and a failure of the
model or of the store may strike anywhere in between. What was searched is read off the journal of the
store. The step either asks the store nothing at all, or it searches a few queries, each of them once
and under the filter of the ticket's module, and says which they were.
-/
namespace Helpdesk

variable {σ : Type}

namespace Knowledge

variable {store : Store σ} {s : Settings} {queries : List String} {filter : Option Filter}
  {fallback : String} {count : Int} {asked : Asked} {r : Retrieval} {journal more : List Exchange}

/-! ## The searches of a retrieval -/

/-- Whether a store was asked to search. -/
def Exchange.isSearch : Exchange → Bool
  | .searched .. => true
  | _ => false

theorem filter_isSearch_searches (count : Int) (filter : Option Filter) (asked : Asked) :
    (searches count filter asked).filter Exchange.isSearch = searches count filter asked := by
  refine List.filter_eq_self.mpr fun e he => ?_
  obtain ⟨p, -, rfl⟩ := List.mem_map.mp he
  rfl

/-- Once there are hits nothing is searched any more. -/
theorem Concludes.filter_isSearch {found : List (List Hit)} (h : Concludes s found r more) :
    more.filter Exchange.isSearch = [] := by
  obtain ⟨-, lookups, uses, rfl, hlookups, huses⟩ := h
  rw [List.filter_eq_nil_iff]
  intro e he hsearch
  rcases List.mem_append.mp he with he | he
  · have hlookup := hlookups e he
    cases e with
    | searched => exact hlookup
    | _ => cases hsearch
  · rcases huses with ⟨-, rfl⟩ | ⟨-, keys, context, answer, rfl, -⟩
    · cases he
    · rw [List.mem_singleton.mp he] at hsearch
      cases hsearch

/-- The queries are searched in their order, and when all these searches fail the fallback is. -/
theorem Course.filter_isSearch (h : Course s filter fallback count asked r journal) :
    (¬ AllFailed asked ∧ journal.filter Exchange.isSearch = searches count filter asked) ∨
    (AllFailed asked ∧ ∃ answer, journal.filter Exchange.isSearch =
      searches count filter asked ++ [.searched fallback s.ragBaseK filter answer]) := by
  cases h with
  | searched hsome _ hrest =>
    refine Or.inl ⟨hsome, ?_⟩
    rw [List.filter_append, filter_isSearch_searches, hrest.filter_isSearch, List.append_nil]
  | @fellBack hits _ hfailed _ hrest =>
    refine Or.inr ⟨hfailed, .ok hits, ?_⟩
    rw [List.filter_append, filter_isSearch_searches, List.filter_cons_of_pos rfl,
      hrest.filter_isSearch]
  | @nothing fault hfailed =>
    refine Or.inr ⟨hfailed, .error fault, ?_⟩
    rw [List.filter_append, filter_isSearch_searches, List.filter_cons_of_pos rfl, List.filter_nil]

/-! ## The hits of a retrieval -/

/-- No more hits than the limit, and no two of them with the same identifier. -/
def FewDistinct (limit : Int) (hits : List Hit) : Prop :=
  (0 ≤ limit → (hits.length : Int) ≤ limit) ∧ (hits.map Hit.id).Nodup

theorem fewDistinct_nil (limit : Int) : FewDistinct limit [] :=
  ⟨fun h => h, List.nodup_nil⟩

theorem fewDistinct_upTo (limit : Int) (hits : List Hit) :
    FewDistinct limit (Text.upTo (distinctHits hits) limit) := by
  refine ⟨fun h => ?_, ?_⟩
  · obtain ⟨n, rfl⟩ := Int.eq_ofNat_of_zero_le h
    rw [Text.upTo_natCast]
    exact_mod_cast List.length_take_le n (distinctHits hits)
  · exact (nodup_ids_distinctHits hits).sublist ((List.take_sublist _ _).map Hit.id)

theorem fewDistinct_of_conclude (store : Store σ) (s : Settings) (queries : List String)
    (context : Entries) (started : Int) (found : List (List Hit)) (usedFallback : Bool)
    (w : World σ) : FewDistinct s.ragMaxResults
      ((conclude store s queries context started found usedFallback).run w).1.hits :=
  fewDistinct_upTo _ _

/-- Whichever way a retrieval goes, its hits are few and distinct. -/
theorem fewDistinct_of_retrieve {context : Entries} {w : World σ}
    (h : ((retrieve store s queries filter fallback context).run.run w).1 = .ok r) :
    FewDistinct s.ragMaxResults r.hits := by
  have hconclude : ∀ started found usedFallback (mid last : World σ),
      (Attempt.sure (conclude store s queries context started found usedFallback)).run.run mid =
        (.ok r, last) → FewDistinct s.ragMaxResults r.hits := by
    intro started found usedFallback mid last hlast
    rw [← Except.ok.inj (Prod.mk.inj hlast).1]
    exact fewDistinct_of_conclude store s queries context started found usedFallback mid
  have hrun : (retrieve store s queries filter fallback context).run.run w = (.ok r, _) :=
    Prod.ext h rfl
  -- Each way to a result leads through `conclude`, but for a fallback that fails.
  obtain ⟨started, _, -, hrun⟩ := Attempt.run_bind_eq_ok_iff.mp hrun
  obtain ⟨found, _, -, hrun⟩ := Attempt.run_bind_eq_ok_iff.mp hrun
  split at hrun
  · obtain ⟨_, _, -, hrun⟩ := Attempt.run_bind_eq_ok_iff.mp hrun
    obtain ⟨instead, _, -, hrun⟩ := Attempt.run_bind_eq_ok_iff.mp hrun
    rcases instead with _ | hits
    · cases hrun
      exact fewDistinct_nil _
    · exact hconclude _ _ _ _ _ hrun
  · exact hconclude _ _ _ _ _ hrun

end Knowledge

namespace Workflow

open Conversation Knowledge

variable {s : State} {bag : Entries} {filter : Option Filter} {queries : List String}

/-! ## Filters -/

/-- The filter for the chunks of the ticket's module, and none where the ticket has no module. -/
def ModuleFilter (ticket : Entries) (filter : Option Filter) : Prop :=
  (((Entries.value? "module" ticket).getD .null).counts = false ∧ filter = none) ∨
    ∃ m, Entries.value? "module" ticket = some (.text m) ∧ m ≠ "" ∧ filter = some ⟨some m, none⟩

theorem moduleFilter_of_ticketFilter {ticket : Entries}
    (h : ticketFilter ((Entries.value? "module" ticket).getD .null) = .ok filter) :
    ModuleFilter ticket filter := by
  rcases hmodule : Entries.value? "module" ticket with _ | v
  · rw [hmodule] at h
    cases h
    exact Or.inl ⟨by rw [hmodule]; rfl, rfl⟩
  rw [hmodule, Option.getD_some, ticketFilter] at h
  rcases hcounts : v.counts
  · rw [hcounts] at h
    cases h
    exact Or.inl ⟨by rw [hmodule]; exact hcounts, rfl⟩
  rw [hcounts] at h
  cases v with
  | text m =>
    cases h
    refine Or.inr ⟨m, hmodule, ?_, rfl⟩
    rintro rfl
    cases hcounts
  | null => cases hcounts
  | _ => cases h

/-! ## Queries -/

/-- Queries that were made up from words: a few, each of them once, and none of them empty. -/
structure Worded (queries : List String) : Prop where
  few : queries.length ≤ queryLimit
  distinct : queries.Nodup
  worded : "" ∉ queries

theorem worded_usableQueries (d : Decision.Queries) : Worded (usableQueries d) where
  few := List.length_take_le _ _
  distinct := nodup_usableQueries d
  worded h := ne_empty_of_mem_usableQueries h rfl

theorem worded_own (words : String) : Worded ([words].filter (!·.isEmpty)) where
  few := (List.length_filter_le _ _).trans (by simp [queryLimit])
  distinct := (List.nodup_singleton words).filter _
  worded := by simp

theorem journals_shouldSearch (sv : Services σ) (c : RagConfig) (bag : Entries) (s : State) :
    Duty.Journals (shouldSearch sv c bag s).run (shouldSearch sv.journaled c bag s).run
      (fun _ more => more = []) := by
  unfold shouldSearch
  rcases c.enableIntentAnalysis with _ | _
  · exact .pure _ rfl
  rcases Triage.isSmallTalk (lastWords bag) with _ | _
  · refine journals_question sv _ _ _ _ _ _ _ (fun _ => rfl) ?_
    rintro (fault | d)
    · exact (Duty.Journals.noted _ _).mono fun _ _ h => h.2
    · exact .pure _ rfl
  · exact .pure _ rfl

/-- The model's queries and the customer's own words are worded. -/
theorem journals_writtenQueries (sv : Services σ) (c : RagConfig) (bag : Entries) (s : State) :
    Duty.Journals (writtenQueries sv c bag s).run (writtenQueries sv.journaled c bag s).run
      (fun result more => more = [] ∧ ∀ queries, result = .ok queries → Worded queries) := by
  unfold writtenQueries
  refine journals_question sv _ _ _ _ _ _ _ (fun _ => ⟨rfl, fun _ h => by cases h⟩) ?_
  rintro (fault | d)
  · refine (Duty.Journals.noted _ _).mono ?_
    rintro _ more ⟨rfl, rfl⟩
    refine ⟨rfl, fun queries h => ?_⟩
    cases h
    exact worded_own _
  · refine .pure _ ⟨rfl, fun queries h => ?_⟩
    cases h
    exact worded_usableQueries d

/-- Queries that a step may search: worded ones, or what the ticket is about. -/
structure Searchable (bag : Entries) (queries : List String) : Prop where
  some : queries ≠ []
  few : queries.length ≤ queryLimit
  distinct : queries.Nodup
  worded : "" ∈ queries → ticketQuery bag = ""

theorem searchable_ticketQuery (bag : Entries) : Searchable bag [ticketQuery bag] where
  some := List.cons_ne_nil _ _
  few := by simp [queryLimit]
  distinct := List.nodup_singleton _
  worded h := (List.mem_singleton.mp h).symm

theorem Worded.searchable (h : Worded queries) (hsome : queries ≠ []) : Searchable bag queries :=
  ⟨hsome, h.few, h.distinct, fun hempty => absurd hempty h.worded⟩

theorem journals_queriesFor (sv : Services σ) (c : RagConfig) (bag : Entries) (s : State) :
    Duty.Journals (queriesFor sv c bag s).run (queriesFor sv.journaled c bag s).run
      (fun result more => more = [] ∧ ∀ queries, result = .ok queries → Searchable bag queries) := by
  unfold queriesFor
  refine (journals_writtenQueries sv c bag s).task_bind ?_ ?_
  · rintro fault first ⟨rfl, -⟩
    exact ⟨rfl, fun _ h => by cases h⟩
  · rintro queries first ⟨rfl, hworded⟩
    refine .pure _ ⟨rfl, fun found h => ?_⟩
    cases h
    split
    · exact searchable_ticketQuery bag
    · rename_i hsome
      exact (hworded queries rfl).searchable (by simpa using hsome)

/-! ## Blank tickets -/

/-- A part of the ticket that is a text of blanks. -/
def BlankPart (ticket : Entries) (name : String) : Prop :=
  ∃ t, Entries.value? name ticket = some (.text t) ∧ t ≠ "" ∧ Text.isBlankText t = true

theorem isBlankText_iff {t : String} : Text.isBlankText t = true ↔ Text.visible t.toList = [] := by
  rw [Text.visible_eq_nil_iff, Text.isBlankText, List.all_eq_true]

theorem isBlankText_of_clip {t : String} {limit : Nat}
    (h : Text.isBlankText (Text.clip limit t) = true) : Text.isBlankText t = true := by
  rw [Text.clip] at h
  split at h
  · exact h
  · -- The dots behind a text that was cut can be seen.
    rw [isBlankText_iff, String.toList_append, Text.visible_append] at h
    cases (List.append_eq_nil_iff.mp h).2

theorem blankPart_of_titleText {ticket : Entries} {title : Value}
    (htitle : titleText ((Entries.value? "title" ticket).getD .null) = .ok title)
    (h : Text.isBlankText title.plainText = true) : BlankPart ticket "title" := by
  have hbracket : ∀ (first last : String) (middle : String), first.toList ≠ [] →
      Text.visible first.toList = first.toList → Text.isBlankText (first ++ middle ++ last) ≠ true := by
    intro first last middle hsome hvisible hblank
    rw [isBlankText_iff] at hblank
    simp only [String.toList_append, Text.visible_append, List.append_eq_nil_iff, hvisible] at hblank
    exact hsome hblank.1.1
  rcases hentry : Entries.value? "title" ticket with _ | v
  · rw [hentry] at htitle
    cases htitle
    exact absurd h (by decide)
  rw [hentry, Option.getD_some, titleText, Value.orElse] at htitle
  rcases hcounts : v.counts
  · rw [hcounts] at htitle
    cases htitle
    exact absurd h (by decide)
  rw [hcounts, if_pos rfl] at htitle
  cases v with
  | text t =>
    cases htitle
    refine ⟨t, hentry, ?_, isBlankText_of_clip h⟩
    rintro rfl
    cases hcounts
  | list items =>
    cases htitle
    exact absurd h (hbracket _ _ _ (by decide) (by decide))
  | object entries =>
    cases htitle
    exact absurd h (hbracket _ _ _ (by decide) (by decide))
  | _ => cases htitle

theorem blankPart_of_module {ticket : Entries} (hfilter : ModuleFilter ticket filter)
    (h : Text.isBlankText (((Entries.value? "module" ticket).getD .null).orElse
      (.text notGiven)).plainText = true) : BlankPart ticket "module" := by
  rcases hfilter with ⟨hcounts, -⟩ | ⟨m, hmodule, hsome, -⟩
  · rw [Value.orElse, hcounts, if_neg Bool.false_ne_true] at h
    exact absurd h (by decide)
  · have hcounts : (Value.text m).counts = true := by simpa [Value.counts] using hsome
    rw [hmodule, Option.getD_some, Value.orElse, hcounts] at h
    exact ⟨m, hmodule, hsome, h⟩

/-- Words that can be seen stand in the query for a ticket, be they in its title or in its module. -/
theorem blankParts_of_ticketQuery (hbag : Conversation.bag s = .ok bag)
    (hfilter : ModuleFilter s.ticket filter) (h : ticketQuery bag = "") :
    BlankPart s.ticket "title" ∧ BlankPart s.ticket "module" := by
  obtain ⟨text, title, -, htitle, hvalue⟩ := exists_texts_of_bag hbag
  have htitleValue := hvalue "ticketTitle" title (by simp)
  have hmoduleValue := hvalue "ticketModule"
    (((Entries.value? "module" s.ticket).getD .null).orElse (.text notGiven)) (by simp)
  have hvisible := congrArg (fun t => Text.visible t.toList) h
  simp only [ticketQuery, htitleValue, hmoduleValue, Option.getD_some, Text.trim,
    String.toList_ofList, Text.visible_trimChars, String.toList_append, Text.visible_append] at hvisible
  -- Title, blank and module stand side by side, so none of them shows anything.
  obtain ⟨hfront, hback⟩ := List.append_eq_nil_iff.mp hvisible
  have hfront := (List.append_eq_nil_iff.mp hfront).1
  exact ⟨blankPart_of_titleText htitle (isBlankText_iff.mpr hfront),
    blankPart_of_module hfilter (isBlankText_iff.mpr hback)⟩

/-! ## The step -/

/-- What was asked of the store, and what the step says of it. -/
structure SearchReport (settings : Settings) (s : State) (queries : List String) (hits : List Hit)
    (journal : List Exchange) : Prop where
  some : queries ≠ []
  few : queries.length ≤ queryLimit
  distinct : queries.Nodup
  worded : "" ∈ queries → BlankPart s.ticket "title" ∧ BlankPart s.ticket "module"
  /-- The queries were searched in their order, and the customer's words when all of that failed. -/
  searched : ∃ filter count words asked, ModuleFilter s.ticket filter ∧
    hitsPerQuery? queries.length settings.ragBaseK = .some count ∧
    customerText s.turns s.ticket = .ok words ∧ asked.map Prod.fst = queries ∧
    ((¬ AllFailed asked ∧ journal.filter Exchange.isSearch = searches count filter asked) ∨
      (AllFailed asked ∧ ∃ answer, journal.filter Exchange.isSearch =
        searches count filter asked ++ [.searched words settings.ragBaseK filter answer]))
  hits : FewDistinct settings.ragMaxResults hits

/-- What the step leaves and what is in the journal then: either the store was asked nothing and no
search is reported, or the step reports what it searched and found. -/
def Accounts (settings : Settings) (s : State) (result : Except Fault Fields)
    (journal : List Exchange) : Prop :=
  (journal = [] ∧ (result = .ok unsearchedFields ∨ ∃ fault, result = .error fault)) ∨
    ∃ update queries hits, result = .ok update ∧ update.searchQueries = some (.ofTexts queries) ∧
      update.context = some hits ∧ SearchReport settings s queries hits journal

theorem accounts_error (settings : Settings) (s : State) (fault : Fault) :
    Accounts settings s (.error fault) [] :=
  Or.inl ⟨rfl, Or.inr ⟨fault, rfl⟩⟩

theorem customerText_of_bag (hbag : Conversation.bag s = .ok bag) :
    customerText s.turns s.ticket = .ok (lastWords bag) := by
  obtain ⟨text, htext, hvalue, -⟩ := exists_customerText_of_bag hbag
  rw [htext, lastWords, bagText, hvalue]
  rfl

/-- What comes of searchable queries. -/
theorem journals_retrieve_reported (sv : Services σ)
    (hbag : Conversation.bag s = .ok bag) (hfilter : ModuleFilter s.ticket filter)
    (hqueries : Searchable bag queries) (context : Entries) :
    Journals
      (retrieve sv.store sv.settings queries filter (lastWords bag) context).run
      (retrieve sv.store.journaled sv.settings queries filter (lastWords bag) context).run
      (fun result more => (more = [] ∧ ∃ fault, result = .error fault) ∨
        ∃ r, result = .ok r ∧ SearchReport sv.settings s queries r.hits more) := by
  rcases hcount : hitsPerQuery? queries.length sv.settings.ragBaseK with _ | count
  · refine (journals_retrieve_of_tooLarge sv.store sv.settings filter (lastWords bag) context
      hcount).mono ?_
    rintro result more ⟨hfault, hnone⟩
    exact Or.inl ⟨hnone, _, hfault⟩
  obtain ⟨expanded, hnone, hexpand⟩ :=
    exists_journals_expand sv.store ⟨fun _ _ _ => .ok [], fun _ _ _ _ => .ok []⟩
      sv.settings.ragMaxResults
  -- The table of answers has no say in how many hits there are: that is so of every run.
  have hfew : ∀ w r, ((retrieve sv.store sv.settings queries filter (lastWords bag)
      context).run.run w).1 = .ok r → FewDistinct sv.settings.ragMaxResults r.hits :=
    fun w r => fewDistinct_of_retrieve
  refine ((journals_retrieve hnone hexpand hcount filter (lastWords bag) context).and_result
    (R := fun result => ∀ r, result = .ok r → FewDistinct sv.settings.ragMaxResults r.hits)
    hfew).mono ?_
  rintro result more ⟨⟨r, asked, hresult, hasked, hcourse, -⟩, hhits⟩
  refine Or.inr ⟨r, hresult, hqueries.some, hqueries.few, hqueries.distinct, ?_, ?_, hhits r hresult⟩
  · exact fun hempty => blankParts_of_ticketQuery hbag hfilter (hqueries.worded hempty)
  · exact ⟨filter, count, lastWords bag, asked, hfilter, hcount, customerText_of_bag hbag, hasked,
      hcourse.filter_isSearch⟩

theorem eq_ok_of_ofMisfit {α : Type} {result : Except Misfit α} {a : α}
    (h : .ok a = Fault.ofMisfit result) : result = .ok a := by
  rcases result with misfit | found
  · cases h
  · cases h
    rfl

theorem journals_lookUpKnowledge (sv : Services σ) (c : RagConfig) (s : State) :
    Duty.Journals (lookUpKnowledge sv c s).run (lookUpKnowledge sv.journaled c s).run
      (Accounts sv.settings s) := by
  unfold lookUpKnowledge
  refine (Duty.Journals.ofExcept _).task_bind ?_ ?_
  · rintro fault first ⟨-, rfl⟩
    exact accounts_error _ _ fault
  rintro bag first ⟨hfound, rfl⟩
  have hbag : Conversation.bag s = .ok bag := eq_ok_of_ofMisfit hfound
  refine (journals_shouldSearch sv c bag s).silent_bind (accounts_error _ _) ?_
  rintro (_ | _)
  · exact .pure _ (Or.inl ⟨rfl, Or.inl rfl⟩)
  refine (journals_queriesFor sv c bag s).task_bind ?_ ?_
  · rintro fault first ⟨rfl, -⟩
    exact accounts_error _ _ fault
  rintro queries first ⟨rfl, hqueries⟩
  refine (Duty.Journals.ofExcept _).task_bind ?_ ?_
  · rintro fault first ⟨-, rfl⟩
    exact accounts_error _ _ fault
  rintro filter first ⟨hfilter, rfl⟩
  have hreported := journals_retrieve_reported sv hbag (moduleFilter_of_ticketFilter hfilter.symm)
    (hqueries queries rfl) (useContext s (lastWords bag) queries)
  refine (Duty.Journals.ofAttempt hreported).task_bind ?_ ?_
  · rintro fault first (⟨rfl, -⟩ | ⟨r, hr, -⟩)
    · exact accounts_error _ _ fault
    · cases hr
  · rintro found first (⟨-, fault, hfault⟩ | ⟨r, hr, hreport⟩)
    · cases hfault
    · cases hr
      refine .pure _ (Or.inr ⟨_, queries, found.hits, rfl, rfl, rfl, ?_⟩)
      simpa using hreport

/-- **What is searched is reported**: whatever models and stores do, the step that looks for knowledge
either asks the store nothing, or it searches one to three queries, no two of them equal, under the
filter of the ticket's module. An empty query is what a ticket gives whose title and module are blank.
When all these searches fail the customer's words are searched once. The step reports the queries as
they were searched, and no more hits than the limit, each with an identifier of its own. -/
theorem searches_are_reported (sv : Services σ) (c : RagConfig) (s : State)
    (o : Office σ) :
    ∃ result after journal, (lookUpKnowledge sv c s).run.run o = (result, after) ∧
      (lookUpKnowledge sv.journaled c s).run.run (o.keeping []) = (result, after.keeping journal) ∧
      Accounts sv.settings s result journal := by
  obtain ⟨journal, haccounts, htwin⟩ := journals_lookUpKnowledge sv c s o []
  exact ⟨_, _, journal, rfl, htwin, haccounts⟩

end Workflow

end Helpdesk
