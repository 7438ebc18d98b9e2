import Helpdesk.Knowledge.Retrieval
import Helpdesk.Proofs.Knowledge.Journal
import Helpdesk.Proofs.Text.Slice
import Mathlib.Algebra.Group.Int.Defs
import Mathlib.Tactic.Choose

/-!
# Helpdesk.Proofs.Knowledge.Retrieval — how a retrieval goes.

The store is a collaborator: each search, each lookup and each count may be answered, fail or take too
long, one independently of the other. What the store is asked is read off its journal. There are four
ways to go, told apart by the answers to the searches alone, and each ends in a result. Lookups and the
count come last and have no say in which way it goes; the count has no say in the result either.

A lookup may be answered with anything. That the hits in the end are a function of the answers is
therefore said with a table of answers: if the journal agrees with the table, the hits are the ones
that belong to it.
-/
namespace Helpdesk.Knowledge

variable {σ : Type}

/-! ## Searching -/

/-- Queries with what the store answered to them. -/
abbrev Asked := List (String × Except Fault (List Hit))

/-- The searches behind some queries and their answers. -/
def searches (count : Int) (filter : Option Filter) (asked : Asked) : List Exchange :=
  asked.map fun (query, answer) => .searched query count filter answer

/-- The hits that an answer stands for: none when the search took too long, and nothing at all when
it failed. -/
def branch? : Except Fault (List Hit) → Option (List Hit)
  | .ok hits => some hits
  | .error .timedOut => some []
  | .error _ => none

theorem journals_searchBranch (store : Store σ) (query : String) (count : Int)
    (filter : Option Filter) :
    Journals (searchBranch store query count filter) (searchBranch store.journaled query count filter)
      (fun result more => ∃ answer, more = [.searched query count filter answer] ∧
        result.toOption = branch? answer) := by
  have hask := Journals.ask (store.search query count filter) (.searched query count filter)
  refine hask.bind ?_
  rintro (fault | hits) first rfl
  · -- Of all faults only the time-out is told to operators here, and it leaves an empty branch.
    cases fault
    case timedOut =>
      refine (Journals.note _).bind ?_
      rintro - first rfl
      exact Journals.pure _ ⟨_, rfl, rfl⟩
    all_goals exact Journals.pure _ ⟨_, rfl, rfl⟩
  · exact Journals.pure _ ⟨_, rfl, rfl⟩

theorem journals_searchAll (store : Store σ) (count : Int) (filter : Option Filter)
    (queries : List String) :
    Journals (searchAll store count filter queries) (searchAll store.journaled count filter queries)
      (fun results more => ∃ asked : Asked, asked.map Prod.fst = queries ∧
        more = searches count filter asked ∧
        results.map (fun r => r.2.toOption) = asked.map fun p => branch? p.2) := by
  unfold searchAll
  induction queries with
  | nil =>
    rw [List.mapM_nil, List.mapM_nil]
    exact Journals.pure _ ⟨[], rfl, rfl, rfl⟩
  | cons query queries ih =>
    rw [List.mapM_cons, List.mapM_cons, bind_assoc, bind_assoc]
    refine (journals_searchBranch store query count filter).bind ?_
    rintro result first ⟨answer, rfl, hresult⟩
    rw [pure_bind, pure_bind]
    refine ih.bind ?_
    rintro results second ⟨asked, rfl, rfl, hresults⟩
    refine Journals.pure _ ⟨(query, answer) :: asked, rfl, ?_, ?_⟩
    · simp [searches]
    · simp [hresult, hresults]

theorem journals_succeeded (results : List (String × Except Fault (List Hit))) :
    Journals (σ := σ) (succeeded results) (succeeded results)
      (fun branches more => more = [] ∧
        branches = (results.map fun r => r.2.toOption).filterMap id) := by
  induction results with
  | nil => exact Journals.pure _ ⟨rfl, rfl⟩
  | cons r results ih =>
    obtain ⟨query, fault | hits⟩ := r
    · refine (Journals.note _).bind ?_
      rintro - first rfl
      refine ih.mono ?_
      rintro branches more ⟨rfl, rfl⟩
      exact ⟨rfl, rfl⟩
    · refine ih.bind ?_
      rintro branches more ⟨rfl, rfl⟩
      exact Journals.pure _ ⟨rfl, rfl⟩

/-- The hits of the searches that count. -/
def branches (asked : Asked) : List (List Hit) :=
  asked.filterMap fun p => branch? p.2

theorem journals_fanOut (store : Store σ) {s : Settings} {queries : List String}
    {filter : Option Filter} {count : Int}
    (hcount : hitsPerQuery? queries.length s.ragBaseK = some count) :
    Journals (fanOut store s queries filter).run (fanOut store.journaled s queries filter).run
      (fun result more => ∃ found, result = .ok found ∧ ∃ asked : Asked,
        asked.map Prod.fst = queries ∧ more = searches count filter asked ∧
        found = branches asked) := by
  unfold fanOut
  rw [hcount]
  have hall : Journals
      (searchAll store count filter queries >>= succeeded)
      (searchAll store.journaled count filter queries >>= succeeded)
      (fun found more => ∃ asked : Asked, asked.map Prod.fst = queries ∧
        more = searches count filter asked ∧ found = branches asked) := by
    refine (journals_searchAll store count filter queries).bind ?_
    rintro results first ⟨asked, hasked, rfl, hresults⟩
    refine (journals_succeeded results).mono ?_
    rintro found more ⟨rfl, rfl⟩
    refine ⟨asked, hasked, List.append_nil _, ?_⟩
    rw [hresults, branches, List.filterMap_map]
    rfl
  exact Journals.sure hall

/-! ## Reading around hits -/

/-- A table of answers to searches and lookups. -/
structure Answers where
  search : String → Int → Option Filter → Except Fault (List Hit)
  neighbors : String → Option String → Int → Int → Except Fault (List Hit)

/-- A search or a lookup was answered as a table says; other questions are not in the table. -/
def Exchange.Agrees (a : Answers) : Exchange → Prop
  | .searched query count filter answer => answer = a.search query count filter
  | .lookedAround sourceType sourceId number window answer =>
    answer = a.neighbors sourceType sourceId number window
  | _ => True

/-- Whether a store was asked for what stands around a chunk. -/
def Exchange.IsLookup : Exchange → Prop
  | .lookedAround .. => True
  | _ => False

/-- Only lookups were made, and if they were answered as a table says the result is a certain one. -/
def Settles {α : Type} (a : Answers) (x : α) (result : α) (more : List Exchange) : Prop :=
  (∀ e ∈ more, e.IsLookup) ∧ ((∀ e ∈ more, e.Agrees a) → result = x)

theorem Settles.nil {α : Type} (a : Answers) (x : α) : Settles a x x [] :=
  ⟨fun _ h => absurd h List.not_mem_nil, fun _ => rfl⟩

theorem journals_pure_settles {α : Type} (a : Answers) (x : α) :
    Journals (σ := σ) (pure x) (pure x) (Settles a x) :=
  Journals.pure x (Settles.nil a x)

theorem Settles.bind {α β : Type} {a : Answers} {x : α} {y : α → β} {work : Work σ α}
    {twin : Work (σ × List Exchange) α} {next : α → Work σ β}
    {nextTwin : α → Work (σ × List Exchange) β} (hwork : Journals work twin (Settles a x))
    (hnext : ∀ r, Journals (next r) (nextTwin r) (Settles a (y r))) :
    Journals (work >>= next) (twin >>= nextTwin) (Settles a (y x)) := by
  refine hwork.bind fun r first hfirst => (hnext r).mono fun z second hsecond => ?_
  constructor
  · intro e he
    exact (List.mem_append.mp he).elim (hfirst.1 e) (hsecond.1 e)
  · intro h
    rw [hsecond.2 fun e he => h e (List.mem_append_right _ he),
      hfirst.2 fun e he => h e (List.mem_append_left _ he)]

theorem Settles.mapM {α β : Type} {a : Answers} {y : α → β} {f : α → Work σ β}
    {twin : α → Work (σ × List Exchange) β} (h : ∀ x, Journals (f x) (twin x) (Settles a (y x)))
    (xs : List α) : Journals (xs.mapM f) (xs.mapM twin) (Settles a (xs.map y)) := by
  induction xs with
  | nil =>
    rw [List.mapM_nil, List.mapM_nil]
    exact journals_pure_settles a []
  | cons x xs ih =>
    rw [List.mapM_cons, List.mapM_cons]
    exact Settles.bind (h x) fun b => Settles.bind ih fun bs => journals_pure_settles a (b :: bs)

/-- What is made of an answer to a lookup around a hit. -/
def company (hit : Hit) : Except Fault (List Hit) → List Hit
  | .ok hits => hits.filter fun n => n.sourceType = hit.sourceType && n.sourceId = hit.sourceId
  | .error _ => []

/-- One lookup is made, and its answer is cut down to the source of the hit. -/
theorem journals_lookAround_company (store : Store σ) (hit : Hit) (number window : Int) :
    Journals (lookAround store hit number window) (lookAround store.journaled hit number window)
      (fun hits more => ∃ answer,
        more = [.lookedAround hit.sourceType hit.sourceId number window answer] ∧
        hits = company hit answer) := by
  refine (Journals.ask (store.neighbors hit.sourceType hit.sourceId number window)
    (.lookedAround hit.sourceType hit.sourceId number window)).bind ?_
  rintro (fault | hits) first rfl
  · refine (Journals.note _).bind ?_
    rintro - first rfl
    exact Journals.pure _ ⟨_, rfl, rfl⟩
  · exact Journals.pure _ ⟨_, rfl, rfl⟩

theorem journals_lookAround (store : Store σ) (a : Answers) (hit : Hit) (number window : Int) :
    Journals (lookAround store hit number window) (lookAround store.journaled hit number window)
      (Settles a (company hit (a.neighbors hit.sourceType hit.sourceId number window))) := by
  refine (journals_lookAround_company store hit number window).mono ?_
  rintro hits more ⟨answer, rfl, rfl⟩
  constructor
  · intro e he
    rw [List.mem_singleton.mp he]
    exact True.intro
  · intro h
    have hanswer : answer = a.neighbors hit.sourceType hit.sourceId number window :=
      h _ List.mem_cons_self
    rw [hanswer]

/-- The hits that stand for a group are settled by the answers to its lookup. -/
theorem exists_journals_expandGroup (store : Store σ) (a : Answers) (group : List Hit) :
    ∃ hits, Journals (expandGroup store group) (expandGroup store.journaled group)
      (Settles a hits) := by
  unfold expandGroup
  rcases group with _ | ⟨first, rest⟩
  · exact ⟨_, journals_pure_settles a _⟩
  -- Which lookup is made, if any, depends on the group alone, so each branch has its own hits.
  simp only
  split
  · exact ⟨_, journals_pure_settles a _⟩
  · split
    · exact ⟨_, Settles.bind (journals_lookAround store a _ _ _) fun _ => journals_pure_settles a _⟩
    · split
      · exact ⟨_, journals_pure_settles a _⟩
      · exact ⟨_, Settles.bind (journals_lookAround store a _ _ _) fun _ => journals_pure_settles a _⟩

/-- What stands around a list of hits is settled by the answers to the lookups. -/
theorem exists_journals_expand (store : Store σ) (a : Answers) (limit : Int) :
    ∃ expanded : List Hit → List Hit, expanded [] = [] ∧ ∀ top,
      Journals (expand store limit top) (expand store.journaled limit top)
        (Settles a (expanded top)) := by
  choose hits hhits using exists_journals_expandGroup store a
  refine ⟨fun top => Text.upTo (distinctHits ((grouped top).map hits).flatten) limit, ?_,
    fun top => ?_⟩
  · simp [grouped, Keyed.entries, distinctHits, Text.upTo]
  · exact Settles.bind (Settles.mapM hhits (grouped top)) fun _ => journals_pure_settles a _

/-! ## Counting uses -/

/-- What is asked of the store when uses are counted: nothing when no hit was taken, else one call
that names each of the hits that were once. -/
def CountsUses (top : List Hit) (more : List Exchange) : Prop :=
  (top = [] ∧ more = []) ∨
    (top ≠ [] ∧ ∃ keys context answer, more = [.counted keys context answer] ∧
      keys = Text.distinct (top.map Hit.id) ∧ keys.Nodup ∧ ∀ id, id ∈ keys ↔ ∃ h ∈ top, h.id = id)

theorem journals_countUses (store : Store σ) (top : List Hit) (context : Entries) (started : Int) :
    Journals (countUses store top context started) (countUses store.journaled top context started)
      (fun _ more => CountsUses top more) := by
  unfold countUses
  refine (Journals.clock store).bind ?_
  rintro ended first rfl
  simp only [List.nil_append]
  by_cases htop : top = []
  · subst htop
    exact Journals.pure _ (.inl ⟨rfl, rfl⟩)
  · have hkeys : (Text.distinct (top.map Hit.id)).isEmpty = false := by
      simp [List.isEmpty_eq_false_iff, Text.distinct_eq_nil_iff, htop]
    have hcounted : ∀ context answer,
        CountsUses top [.counted (Text.distinct (top.map Hit.id)) context answer] := by
      refine fun context answer => .inr ⟨htop, _, context, answer, rfl, rfl, Text.nodup_distinct _, ?_⟩
      intro id
      rw [Text.mem_distinct, List.mem_map]
    rw [hkeys]
    refine (Journals.ask (store.countUse _ _) (.counted _ _)).bind ?_
    rintro (fault | _) first rfl
    · refine (Journals.note _).mono ?_
      rintro - more rfl
      exact hcounted _ _
    · exact Journals.pure _ (hcounted _ _)

/-! ## Retrieval -/

/-- What comes of the hits that were found: the best of them are taken, the store is asked for what
stands around those, and their uses are counted. -/
def Concludes (s : Settings) (found : List (List Hit)) (r : Retrieval) (more : List Exchange) : Prop :=
  r.top = diversify (fuse found s.ragSummaryBonus) s.ragTopN s.ragMaxPerSource ∧
    ∃ lookups uses, more = lookups ++ uses ∧ (∀ e ∈ lookups, e.IsLookup) ∧ CountsUses r.top uses

theorem journals_conclude {store : Store σ} {s : Settings} {a : Answers}
    {expanded : List Hit → List Hit}
    (hexpand : ∀ top, Journals (expand store s.ragMaxResults top)
      (expand store.journaled s.ragMaxResults top) (Settles a (expanded top)))
    (queries : List String) (context : Entries) (started : Int) (found : List (List Hit))
    (usedFallback : Bool) :
    Journals (conclude store s queries context started found usedFallback)
      (conclude store.journaled s queries context started found usedFallback)
      (fun r more => Concludes s found r more ∧ r.usedFallback = usedFallback ∧
        ((∀ e ∈ more, e.Agrees a) → r.hits = expanded r.top)) := by
  unfold conclude
  refine (hexpand _).bind fun hits lookups hlookups => ?_
  refine (journals_countUses store _ context started).bind fun _ uses huses => ?_
  refine Journals.pure _ ⟨⟨rfl, lookups, uses, ?_, hlookups.1, huses⟩, rfl, fun h => ?_⟩
  · rw [List.append_nil]
  · exact hlookups.2 fun e he => h e (List.mem_append_left _ he)

/-- All searches failed, and there were some. A search that took too long did not fail. -/
def AllFailed (asked : Asked) : Prop :=
  asked ≠ [] ∧ ∀ p ∈ asked, ∃ fault, p.2 = .error fault ∧ fault ≠ .timedOut

theorem branch?_eq_none_iff {answer : Except Fault (List Hit)} :
    branch? answer = none ↔ ∃ fault, answer = .error fault ∧ fault ≠ .timedOut := by
  rcases answer with fault | hits
  · cases fault <;> simp [branch?]
  · simp [branch?]

theorem isEmpty_branches_iff {asked : Asked} {queries : List String}
    (h : asked.map Prod.fst = queries) :
    ((branches asked).isEmpty && !queries.isEmpty) = true ↔ AllFailed asked := by
  have hqueries : queries = [] ↔ asked = [] := by rw [← h, List.map_eq_nil_iff]
  simp only [Bool.and_eq_true, Bool.not_eq_true', List.isEmpty_iff, List.isEmpty_eq_false_iff,
    AllFailed, ne_eq, hqueries, branches, List.filterMap_eq_nil_iff, branch?_eq_none_iff]
  exact and_comm

/-- How a retrieval can go. -/
inductive Course (s : Settings) (filter : Option Filter) (fallback : String) (count : Int)
    (asked : Asked) (r : Retrieval) : List Exchange → Prop where
  /-- Some search did not fail, or there was nothing to search. -/
  | searched {more : List Exchange} (h : ¬ AllFailed asked) (hfallback : r.usedFallback = false)
      (hrest : Concludes s (branches asked) r more) :
      Course s filter fallback count asked r (searches count filter asked ++ more)
  /-- The customer's own words were searched instead. -/
  | fellBack {hits : List Hit} {more : List Exchange} (h : AllFailed asked)
      (hfallback : r.usedFallback = true) (hrest : Concludes s [hits] r more) :
      Course s filter fallback count asked r
        (searches count filter asked ++ .searched fallback s.ragBaseK filter (.ok hits) :: more)
  /-- That search failed too. -/
  | nothing {fault : Fault} (h : AllFailed asked) (hfallback : r.usedFallback = true)
      (hhits : r.hits = []) (htop : r.top = []) :
      Course s filter fallback count asked r
        (searches count filter asked ++ [.searched fallback s.ragBaseK filter (.error fault)])

theorem journals_fallbackHits (store : Store σ) (s : Settings) (query : String)
    (filter : Option Filter) :
    Journals (fallbackHits store s query filter) (fallbackHits store.journaled s query filter)
      (fun found more => (∃ hits, found = some hits ∧
          more = [.searched query s.ragBaseK filter (.ok hits)]) ∨
        ∃ fault, found = none ∧ more = [.searched query s.ragBaseK filter (.error fault)]) := by
  have hask := Journals.ask (store.search query s.ragBaseK filter)
    (.searched query s.ragBaseK filter)
  refine hask.bind ?_
  rintro (fault | hits) first rfl
  · refine (Journals.note _).bind ?_
    rintro - first rfl
    exact Journals.pure _ (.inr ⟨fault, rfl, rfl⟩)
  · exact Journals.pure _ (.inl ⟨hits, rfl, rfl⟩)

theorem journals_retrieve {store : Store σ} {s : Settings} {a : Answers}
    {expanded : List Hit → List Hit} (hnone : expanded [] = [])
    (hexpand : ∀ top, Journals (expand store s.ragMaxResults top)
      (expand store.journaled s.ragMaxResults top) (Settles a (expanded top)))
    {queries : List String} {count : Int}
    (hcount : hitsPerQuery? queries.length s.ragBaseK = some count) (filter : Option Filter)
    (fallback : String) (context : Entries) :
    Journals (retrieve store s queries filter fallback context).run
      (retrieve store.journaled s queries filter fallback context).run
      (fun result more => ∃ r asked, result = .ok r ∧ asked.map Prod.fst = queries ∧
        Course s filter fallback count asked r more ∧
        ((∀ e ∈ more, e.Agrees a) → r.hits = expanded r.top)) := by
  unfold retrieve
  refine Journals.sure_bind (Journals.clock store) ?_
  rintro started first rfl
  refine Journals.ok_bind (journals_fanOut store hcount) ?_
  rintro found second ⟨asked, hasked, rfl, rfl⟩
  have hfailed := isEmpty_branches_iff hasked
  -- The test for the fallback looks at branches only, and so do both twins.
  by_cases hfallback : ((branches asked).isEmpty && !queries.isEmpty) = true
  · rw [if_pos hfallback, if_pos hfallback]
    refine Journals.sure_bind (Journals.note _) ?_
    rintro - third rfl
    refine Journals.sure_bind (journals_fallbackHits store s fallback filter) ?_
    rintro found fourth (⟨hits, rfl, rfl⟩ | ⟨fault, rfl, rfl⟩)
    · refine (Journals.sure (journals_conclude hexpand _ _ _ _ _)).mono ?_
      rintro result more ⟨r, rfl, hrest, hused, hhits⟩
      refine ⟨r, asked, rfl, hasked, ?_, ?_⟩
      · exact .fellBack (hfailed.mp hfallback) hused hrest
      · exact fun h => hhits fun e he => h e (by simp [he])
    · refine Journals.pure _ ⟨_, asked, rfl, hasked, ?_, fun _ => hnone.symm⟩
      exact .nothing (hfailed.mp hfallback) rfl rfl rfl
  · rw [if_neg hfallback, if_neg hfallback]
    refine (Journals.sure (journals_conclude hexpand _ _ _ _ _)).mono ?_
    rintro result more ⟨r, rfl, hrest, hused, hhits⟩
    refine ⟨r, asked, rfl, hasked, ?_, fun h => hhits fun e he => h e (by simp [he])⟩
    exact .searched (mt hfailed.mpr hfallback) hused hrest

/-- A retrieval that searches has a result. -/
theorem exists_retrieve_eq_ok (store : Store σ) (s : Settings) {queries : List String}
    (filter : Option Filter) (fallback : String) (context : Entries) {count : Int}
    (hcount : hitsPerQuery? queries.length s.ragBaseK = some count) (w : World σ) :
    ∃ r, ((retrieve store s queries filter fallback context).run.run w).1 = .ok r := by
  obtain ⟨expanded, hnone, hexpand⟩ :=
    exists_journals_expand store ⟨fun _ _ _ => .ok [], fun _ _ _ _ => .ok []⟩ s.ragMaxResults
  obtain ⟨-, ⟨r, -, hr, -⟩, -⟩ := journals_retrieve hnone hexpand hcount filter fallback context w []
  exact ⟨r, hr⟩

/-! ### What a retrieval keeps true -/

section Preserves

variable {store : Store σ} {P : σ → Prop}

/-- Answers of a store to searches, lookups and counts, and its clock, keep something true. -/
structure Store.Keeps (store : Store σ) (P : σ → Prop) : Prop where
  search : ∀ query count filter s, P s → P ((store.search query count filter).run.run s).2
  neighbors : ∀ sourceType sourceId number window s, P s →
    P ((store.neighbors sourceType sourceId number window).run.run s).2
  countUse : ∀ keys context s, P s → P ((store.countUse keys context).run.run s).2
  clock : ∀ s, P s → P (store.clock.run s).2

theorem Store.Keeps.searchBranch (h : store.Keeps P) (query : String) (count : Int)
    (filter : Option Filter) : Preserves P (searchBranch store query count filter) := by
  refine (Preserves.observe (h.search query count filter)).bind ?_
  rintro (fault | hits)
  · cases fault
    case timedOut => exact (Preserves.note _).bind fun _ => Preserves.pure _
    all_goals exact Preserves.pure _
  · exact Preserves.pure _

theorem preserves_succeeded (results : List (String × Except Fault (List Hit))) :
    Preserves P (succeeded results) := by
  induction results with
  | nil => exact Preserves.pure _
  | cons r results ih =>
    obtain ⟨query, fault | hits⟩ := r
    · exact (Preserves.note _).bind fun _ => ih
    · exact ih.bind fun branches => Preserves.pure (hits :: branches)

theorem Store.Keeps.fanOut (h : store.Keeps P) (s : Settings) (queries : List String)
    (filter : Option Filter) : Preserves P (fanOut store s queries filter).run := by
  unfold Knowledge.fanOut
  split
  · exact Preserves.pure _
  · refine Preserves.sure (Preserves.bind (Preserves.mapM (fun query => ?_) queries) fun results =>
      preserves_succeeded results)
    exact (h.searchBranch _ _ _).bind fun result => Preserves.pure (query, result)

theorem Store.Keeps.lookAround (h : store.Keeps P) (hit : Hit) (number window : Int) :
    Preserves P (lookAround store hit number window) := by
  refine (Preserves.observe (h.neighbors _ _ number window)).bind ?_
  rintro (fault | hits)
  · exact (Preserves.note _).bind fun _ => Preserves.pure _
  · exact Preserves.pure _

theorem Store.Keeps.expandGroup (h : store.Keeps P) (group : List Hit) :
    Preserves P (expandGroup store group) := by
  unfold Knowledge.expandGroup
  rcases group with _ | ⟨first, rest⟩
  · exact Preserves.pure _
  simp only
  split
  · exact Preserves.pure _
  · split
    · exact (h.lookAround _ _ _).bind fun _ => Preserves.pure _
    · split
      · exact Preserves.pure _
      · exact (h.lookAround _ _ _).bind fun _ => Preserves.pure _

theorem Store.Keeps.countUses (h : store.Keeps P) (top : List Hit) (context : Entries)
    (started : Int) : Preserves P (countUses store top context started) := by
  refine (Preserves.observe h.clock).bind fun ended => ?_
  simp only
  split
  · exact Preserves.pure _
  · refine (Preserves.observe (h.countUse _ _)).bind ?_
    rintro (fault | _)
    · exact Preserves.note _
    · exact Preserves.pure _

theorem Store.Keeps.conclude (h : store.Keeps P) (s : Settings) (queries : List String)
    (context : Entries) (started : Int) (found : List (List Hit)) (usedFallback : Bool) :
    Preserves P (conclude store s queries context started found usedFallback) := by
  refine Preserves.bind (Preserves.bind (Preserves.mapM h.expandGroup _) fun _ => Preserves.pure _)
    fun hits => ?_
  exact (h.countUses _ context started).bind fun _ => Preserves.pure _

/-- A retrieval keeps true what every answer of the store keeps true. -/
theorem Store.Keeps.retrieve (h : store.Keeps P) (s : Settings) (queries : List String)
    (filter : Option Filter) (fallback : String) (context : Entries) :
    Preserves P (retrieve store s queries filter fallback context).run := by
  unfold Knowledge.retrieve
  refine Preserves.attempt_bind (Preserves.sure (Preserves.observe h.clock)) fun started => ?_
  refine Preserves.attempt_bind (h.fanOut s queries filter) fun found => ?_
  split
  · refine Preserves.attempt_bind (Preserves.sure (Preserves.note _)) fun _ => ?_
    refine Preserves.attempt_bind (Preserves.sure ?_) ?_
    · refine (Preserves.observe (h.search fallback s.ragBaseK filter)).bind ?_
      rintro (fault | hits)
      · exact (Preserves.note _).bind fun _ => Preserves.pure _
      · exact Preserves.pure _
    · rintro (_ | hits)
      · exact Preserves.pure _
      · exact Preserves.sure (h.conclude _ _ _ _ _ _)
  · exact Preserves.sure (h.conclude _ _ _ _ _ _)

end Preserves

/-! ### What counting has to do with the result -/

variable {countUse : List String → Entries → Ask σ Unit}

theorem retrieve_eq_of_countUse (store : Store σ) (s : Settings) (queries : List String)
    (filter : Option Filter) (fallback : String) (context : Entries) (w : World σ) :
    ((retrieve { store with countUse := countUse } s queries filter fallback context).run.run w).1 =
      ((retrieve store s queries filter fallback context).run.run w).1 := by
  unfold retrieve
  refine Attempt.fst_run_bind _ (fun started w => ?_) w
  refine Attempt.fst_run_bind (fanOut store s queries filter) (fun found w => ?_) w
  split
  · refine Attempt.fst_run_bind _ (fun _ w => ?_) w
    refine Attempt.fst_run_bind (Attempt.sure (fallbackHits store s fallback filter)) ?_ w
    rintro (_ | hits) w
    · rfl
    · rfl
  · rfl

/-- **A retrieval always comes to an end, whatever the store does.** -/
theorem retrieval_always_ends (store : Store σ) (s : Settings) (queries : List String)
    (filter : Option Filter) (fallback : String) (context : Entries) (w : World σ) {count : Int}
    (hcount : hitsPerQuery? queries.length s.ragBaseK = some count) :
    ∃ r after asked journal,
      (retrieve store s queries filter fallback context).run.run w = (.ok r, after) ∧
      (retrieve store.journaled s queries filter fallback context).run.run (w.keeping []) =
        (.ok r, after.keeping journal) ∧
      asked.map Prod.fst = queries ∧
      Course s filter fallback count asked r journal ∧
      ∀ countUse, ((retrieve { store with countUse := countUse } s queries filter fallback
        context).run.run w).1 = .ok r := by
  obtain ⟨expanded, hnone, hexpand⟩ :=
    exists_journals_expand store ⟨fun _ _ _ => .ok [], fun _ _ _ _ => .ok []⟩ s.ragMaxResults
  obtain ⟨journal, ⟨r, asked, hr, hasked, hcourse, -⟩, htwin⟩ :=
    journals_retrieve hnone hexpand hcount filter fallback context w []
  have hrun : (retrieve store s queries filter fallback context).run.run w =
      (.ok r, ((retrieve store s queries filter fallback context).run.run w).2) := Prod.ext hr rfl
  refine ⟨r, _, asked, journal, hrun, ?_, hasked, hcourse, fun countUse => ?_⟩
  · rw [htwin, hr, List.nil_append]
  · rw [retrieve_eq_of_countUse, hr]

/-- A store that finds one passage for every query but one, fails otherwise, and cannot count. -/
def hintStore : Store Unit where
  search query _ _ :=
    if query = "login" then throw (.failure "search down")
    else pure [⟨"general_knowledge:a:1", "Clear the cookies.", "general_knowledge", some "a", some 1,
      0.5, []⟩]
  neighbors _ _ _ _ := throw (.failure "neighbors down")
  countUse _ _ := throw (.failure "count down")
  ofSource _ _ := throw (.failure "source down")
  upsert _ := throw (.failure "write down")
  deleteSource _ _ := throw (.failure "delete down")
  health := throw (.failure "health down")
  clock := pure 0

/-- A world in which nothing has happened yet. -/
def quietWorld : World Unit := ⟨(), [], []⟩

theorem retrieval_always_ends_hintStore :
    ∃ s, Settings.shape (.object []) = .valid s ∧ hitsPerQuery? (["login"].length) s.ragBaseK = some 12 ∧
      ∃ r after, (retrieve hintStore s ["login"] none "cannot log in" []).run.run quietWorld =
        (.ok r, after) := by
  obtain ⟨s, hs, hbase⟩ : ∃ s, Settings.shape (.object []) = .valid s ∧ s.ragBaseK = 6 := ⟨_, rfl, rfl⟩
  have hcount : hitsPerQuery? (["login"].length) s.ragBaseK = some 12 := by
    rw [hbase]
    decide +kernel
  obtain ⟨r, after, -, -, hrun, -⟩ :=
    retrieval_always_ends hintStore s ["login"] none "cannot log in" [] quietWorld hcount
  exact ⟨s, hs, hcount, r, after, hrun⟩

/-- A number of hits that no float can hold ends a retrieval before anything is searched. -/
theorem journals_retrieve_of_tooLarge (store : Store σ) (s : Settings) {queries : List String}
    (filter : Option Filter) (fallback : String) (context : Entries)
    (hcount : hitsPerQuery? queries.length s.ragBaseK = none) :
    Journals (retrieve store s queries filter fallback context).run
      (retrieve store.journaled s queries filter fallback context).run
      (fun result more => result = .error .tooLarge ∧ more = []) := by
  unfold retrieve
  refine Journals.sure_bind (Journals.clock store) ?_
  rintro started first rfl
  unfold fanOut
  rw [hcount]
  exact Journals.pure _ ⟨rfl, rfl⟩

theorem hugeBase_not_retrieved :
    ∃ s, Settings.shape (.object [("rag_base_k", .int (10 ^ 400))]) = .valid s ∧
      ((retrieve hintStore s ["cookies"] none "" []).run.run quietWorld).1 = .error .tooLarge := by
  obtain ⟨s, hs, hbase⟩ : ∃ s, Settings.shape (.object [("rag_base_k", .int (10 ^ 400))]) = .valid s ∧
    s.ragBaseK = 10 ^ 400 := ⟨_, rfl, rfl⟩
  have hcount : hitsPerQuery? (["cookies"].length) s.ragBaseK = none := by
    rw [hbase]
    decide +kernel
  obtain ⟨-, ⟨hr, -⟩, -⟩ :=
    journals_retrieve_of_tooLarge hintStore s none "" [] hcount quietWorld []
  exact ⟨s, hs, hr⟩

end Helpdesk.Knowledge
